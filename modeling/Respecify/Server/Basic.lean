import Respecify.Import.Resolution

/-!
# Servers and their scripts
-/

namespace Respecify

/-- A script on a server. -/
structure Script where
  name : Text
  code : Text
  /-- The name of the server that it belongs to. -/
  hostname : Text
deriving DecidableEq, Repr

/-- A server with its scripts, in order. -/
structure Server where
  hostname : Text
  scripts : List Script
deriving DecidableEq, Repr

namespace Server

/-- The names of the scripts on the server. -/
def names (server : Server) : Known :=
  server.scripts.map Script.name

/-- The first script that is the file of that name. -/
def find? (server : Server) (name : Text) : Option Script :=
  server.scripts.find? fun script => Path.sameFile script.name name

/-- Add a script after the others. -/
def add (server : Server) (script : Script) : Server :=
  { server with scripts := server.scripts ++ [script] }

end Server

namespace Script

/-- Change the first script that is the file of that name; where there is
none, put another one after the others. -/
def changeFirst (name : Text) (change : Script → Script) (other : List Script) :
    List Script → List Script
  | [] => other
  | script :: rest =>
      if Path.sameFile script.name name then change script :: rest
      else script :: changeFirst name change other rest

/-- Take away the first script that is the file of that name. -/
def removeFirst (name : Text) : List Script → List Script
  | [] => []
  | script :: rest =>
      if Path.sameFile script.name name then rest
      else script :: removeFirst name rest

end Script

namespace Server

/-- Give the first script of that name another text. -/
def setCode (server : Server) (name code : Text) : Server :=
  { server with
    scripts := Script.changeFirst name (fun script => { script with code }) [] server.scripts }

/-- Take away the first script of that name. -/
def remove (server : Server) (name : Text) : Server :=
  { server with scripts := Script.removeFirst name server.scripts }

end Server

end Respecify
