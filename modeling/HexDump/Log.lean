import HexDump.Summary

/-! Log entries: how grave, who says it, and what. Entries are collected by the
run they tell about and are only written out afterwards. -/
namespace HexDump.Log

inductive Level where
  | error
  | warn
  | info
  | debug
  | trace
  deriving DecidableEq, Repr

namespace Level

def rank : Level → Nat
  | .error => 1
  | .warn => 2
  | .info => 3
  | .debug => 4
  | .trace => 5

def name : Level → Text
  | .error => "ERROR".toList
  | .warn => "WARN".toList
  | .info => "INFO".toList
  | .debug => "DEBUG".toList
  | .trace => "TRACE".toList

def all : List Level := [.error, .warn, .info, .debug, .trace]

end Level

structure Entry where
  level : Level
  target : Text
  message : Text
  deriving DecidableEq, Repr

def nameWidth : Nat := 5

def indent : Text := [' ', ' ', ' ', ' ']

def indented (message : Text) : Text :=
  message.flatMap (fun c => if c = '\n' then c :: indent else [c])

def Entry.text (e : Entry) : Text :=
  ['['] ++ e.level.name ++ List.replicate (nameWidth - e.level.name.length) ' ' ++ [' '] ++
    e.target ++ [']', ' '] ++ indented e.message

end HexDump.Log
