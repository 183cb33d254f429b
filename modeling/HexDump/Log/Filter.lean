import HexDump.Log
import HexDump.Pattern.Room

/-! Which log entries are written. A filter is a list of directives, each saying
how grave an entry must be for the targets that begin with its name. The longest
name that applies decides, and of two directives with one name only the later one
stands. The written form is parts between commas, `level`, `name` or `name=level`;
a part that is none of these is left out and reported. A pattern may ask more of the messages. -/
namespace HexDump.Log

structure Directive where
  name : Option Text
  threshold : Option Level
  deriving DecidableEq, Repr

namespace Directive

def matchedLength (d : Directive) : Nat := (d.name.getD []).length

def applies (d : Directive) (target : Text) : Bool := (d.name.getD []).isPrefixOf target

def admits (d : Directive) (level : Level) : Bool :=
  level.rank ≤ (d.threshold.map Level.rank).getD 0

end Directive

structure Filter where
  directives : List Directive
  wanted : Option Pattern
  deriving DecidableEq, Repr

namespace Filter

def ofLevel (level : Level) : Filter := ⟨[⟨none, some level⟩], none⟩

def insert (d : Directive) : List Directive → List Directive
  | [] => [d]
  | e :: rest => if e.name = d.name then d :: rest else e :: insert d rest

def governing (directives : List Directive) (target : Text) : Option Directive :=
  directives.foldl (fun best d =>
    if d.applies target ∧ (best.map Directive.matchedLength).getD 0 ≤ d.matchedLength then some d
    else best) none

def admits (filter : Filter) (entry : Entry) : Bool :=
  (match governing filter.directives entry.target with
    | some d => d.admits entry.level
    | none => false) &&
  (match filter.wanted with
    | some pattern => pattern.isIn entry.message
    | none => true)

end Filter

def threshold? (text : Text) : Option (Option Level) :=
  let plain := text.map Unicode.small
  if plain = ['o', 'f', 'f'] then some none
  else (Level.all.find? (·.name.map Unicode.small = plain)).map some

inductive Clause where
  | directive (d : Directive)
  | rejected (part : Text)
  deriving DecidableEq, Repr

def Clause.ofPart (part : Text) : Clause :=
  match Pieces.split '=' part with
  | [name] =>
    match threshold? name with
    | some threshold => .directive ⟨none, threshold⟩
    | none => .directive ⟨some name, some .trace⟩
  | [name, level] =>
    let level := Pieces.trim Unicode.isBlank level
    if level = [] then .directive ⟨some name, some .trace⟩
    else match threshold? level with
      | some threshold => .directive ⟨some name, threshold⟩
      | none => .rejected level
  | _ => .rejected part

def clauses (text : Text) : List Clause :=
  (((Pieces.split ',' text).map (Pieces.trim Unicode.isBlank)).filter (· ≠ [])).map Clause.ofPart

structure Setting where
  filter : Filter
  warnings : List Text
  deriving DecidableEq, Repr

def complaint (part : Text) : Text :=
  "warning: invalid logging spec '".toList ++ part ++ "', ignoring it".toList

namespace Setting

def addClause (setting : Setting) : Clause → Setting
  | .directive d =>
    { setting with filter.directives := Filter.insert d setting.filter.directives }
  | .rejected part => { setting with warnings := setting.warnings ++ [complaint part] }

def addWanted (setting : Setting) (text : Text) : Setting :=
  match Pattern.ofText text with
  | .ok pattern => { setting with filter.wanted := some pattern }
  | .error mistake =>
    { setting with warnings := setting.warnings ++
        ["warning: invalid regex filter - ".toList ++ mistake] }

/-- Behind a slash stands the pattern that messages must contain; a second slash
makes the whole void. -/
def ofText (base : Filter) (text : Text) : Setting :=
  match Pieces.split '/' text with
  | [parts] => (clauses parts).foldl addClause ⟨base, []⟩
  | [parts, wanted] => ((clauses parts).foldl addClause ⟨base, []⟩).addWanted wanted
  | _ => ⟨base, [complaint text ++ " (too many '/'s)".toList]⟩

end Setting

end HexDump.Log
