import MonkeyLang.Log.Directive
import MonkeyLang.Log.Record

/-!
# Log filters

A filter is a list of directives separated by commas.  A directive without an activity sets a level
for the records that its target and field fit, and of several that fit a record the most special
one counts.  A directive with an activity or a field sets a level for all records in the course of
the activities that it fits; of several that fit, the most detailed level counts.  A record is
logged if either level admits it.

The main definition is `Filter.admits`.
-/

namespace MonkeyLang.Log

namespace Directive

/-- What a directive is about: all but its level. -/
def subject (d : Directive) : Option String × Option String × Option FieldTest :=
  (d.target, d.activity, d.field)

/-- Whether the target of a directive fits a part of the program. -/
def fitsPart (d : Directive) (p : Part) : Bool :=
  match d.target with
  | none => true
  | some t => t.toList.isPrefixOf p.name.toList

/-! ## Records by themselves -/

/-- Whether a directive can set the level of a record by itself. -/
def isGeneral (d : Directive) : Bool :=
  d.activity.isNone && (d.field.bind (·.value)).isNone

/-- Whether a directive fits a kind of record. -/
def fitsEvent (d : Directive) (e : Event) : Bool :=
  d.isGeneral && d.fitsPart e.part &&
    match d.field with
    | none => true
    | some f => f.name ∈ e.fields

/-- How special a directive is: the length of its target, counted from one, and its field. -/
def rank (d : Directive) : Nat × Option String :=
  (match d.target with
    | none => 0
    | some t => t.utf8ByteSize + 1,
   d.field.map (·.name))

/-- Whether one rank is higher than another: a longer target counts first, and then a field, of two
fields the one with the greater name. -/
def ranksAbove : Nat × Option String → Nat × Option String → Bool
  | (m, f), (n, g) =>
    n < m || (m = n &&
      match f, g with
      | none, _ => false
      | some _, none => true
      | some f, some g => g < f)

/-! ## Records in the course of an activity -/

/-- Whether a directive is about activities. -/
def isScoped (d : Directive) : Bool := d.activity.isSome || d.field.isSome

/-- Whether an activity has the field that a test asks for, with its value. -/
def fieldFits (f : FieldTest) (a : Activity) : Bool :=
  match a.fields.lookup f.name, f.value with
  | none, _ => false
  | some _, none => true
  | some n, some v => v = .number n

/-- Whether a directive fits an activity. -/
def fitsActivity (d : Directive) (a : Activity) : Bool :=
  d.isScoped && d.fitsPart a.part && d.activity.all (· = a.name) && d.field.all (fieldFits · a)

end Directive

/-! ## Filters -/

/-- The directives of a filter, and the parts of its text that are none. -/
structure Filter where
  directives : List Directive
  refused : List String

namespace Filter

/-- Splits a text at its commas. -/
def splitCommas : List Char → List (List Char)
  | [] => [[]]
  | c :: cs =>
    if c = ',' then [] :: splitCommas cs
    else
      match splitCommas cs with
      | [] => [[c]]
      | part :: parts => (c :: part) :: parts

/-- The directives without those that a later one about the same replaces. -/
def settle : List Directive → List Directive
  | [] => []
  | d :: ds => if ds.any (·.subject = d.subject) then settle ds else d :: settle ds

/-- The filter that logs nothing. -/
def silent : Filter := ⟨[], []⟩

/-- The filter that a text spells.  Without a directive it logs errors. -/
def ofString (s : String) : Filter :=
  let parts := (splitCommas s.toList).filter (· ≠ [])
  let directives := parts.filterMap Directive.ofChars?
  ⟨if directives = [] then [{ Directive.unrestricted with level := .error }] else settle directives,
    (parts.filter fun p => (Directive.ofChars? p).isNone).map .ofList⟩

/-- The filter that a text spells if all of its parts are directives. -/
def ofString? (s : String) : Option Filter :=
  let f := ofString s
  if f.refused = [] then some f else none

/-- The directive of the highest rank. -/
def highest : List Directive → Option Directive
  | [] => none
  | d :: ds =>
    match highest ds with
    | none => some d
    | some e => if Directive.ranksAbove e.rank d.rank then some e else some d

/-- The most detailed level at which records of a kind are logged by themselves. -/
def eventLevel (f : Filter) (e : Event) : Level :=
  ((highest (f.directives.filter (·.fitsEvent e))).map (·.level)).getD .off

/-- Whether a filter logs a record. -/
def admits (f : Filter) (r : Record) : Bool :=
  r.event.level.within (f.eventLevel r.event) ||
    r.activity.any fun a =>
      f.directives.any fun d => d.fitsActivity a && r.event.level.within d.level

end Filter

end MonkeyLang.Log
