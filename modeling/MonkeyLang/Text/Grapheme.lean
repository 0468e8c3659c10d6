import MonkeyLang.Unicode.Conjunct
import MonkeyLang.Unicode.Emoji

/-!
# Extended grapheme clusters

A text is cut into the characters that a reader perceives: a base with its marks, a Hangul
syllable, a flag, a joined emoji, an Indic consonant cluster.  Whether a boundary lies before a
character depends on a bounded summary of the text to its left, `Context`.

The main definition is `clusters`.  `flatten_clusters` says that cutting loses nothing, and
`ne_nil_of_mem_clusters` that no cluster is empty.
-/

namespace MonkeyLang.Text

open Unicode

/-! ## What the text to the left tells -/

/-- How far the text to the left is into an emoji sequence. -/
inductive EmojiProgress where
  /-- It ends with no pictograph and marks on it. -/
  | none
  /-- It ends with a pictograph and any number of combining characters. -/
  | pictograph
  /-- It ends with such a sequence and a zero width joiner. -/
  | joined
deriving DecidableEq

/-- How far the text to the left is into a consonant cluster. -/
inductive ConjunctProgress where
  /-- It ends with no consonant and signs on it. -/
  | none
  /-- It ends with a consonant and signs none of which is a linker. -/
  | consonant
  /-- It ends with a consonant and signs one of which is a linker. -/
  | linked
deriving DecidableEq

/-- What the characters to the left of a position say about a boundary there. -/
structure Context where
  /-- The class of the last character. -/
  last : BreakClass
  emoji : EmojiProgress
  conjunct : ConjunctProgress
  /-- Whether the text ends with an odd number of regional indicators. -/
  oddRegionals : Bool

/-- The emoji progress after one more character. -/
def EmojiProgress.next (p : EmojiProgress) (c : Char) : EmojiProgress :=
  if isPictograph c then .pictograph
  else
    match p, BreakClass.ofChar c with
    | .pictograph, .extend => .pictograph
    | .pictograph, .joiner => .joined
    | _, _ => .none

/-- The consonant cluster progress after one more character. -/
def ConjunctProgress.next (p : ConjunctProgress) (c : Char) : ConjunctProgress :=
  match p, ConjunctRole.ofChar c with
  | _, .consonant => .consonant
  | _, .none => .none
  | .none, _ => .none
  | _, .linker => .linked
  | p, .extender => p

namespace Context

/-- The context before the first character of a text. -/
def initial : Context := ⟨.control, .none, .none, false⟩

/-- The context after one more character. -/
def next (x : Context) (c : Char) : Context where
  last := .ofChar c
  emoji := x.emoji.next c
  conjunct := x.conjunct.next c
  oddRegionals := isRegionalIndicator c && !x.oddRegionals

/-- Whether a character belongs to the cluster that ends before it. -/
def joins (x : Context) (c : Char) : Bool :=
  match x.last, BreakClass.ofChar c with
  | .cr, .lf => true
  | .cr, _ | .lf, _ | .control, _ => false
  | _, .cr | _, .lf | _, .control => false
  | _, .extend | _, .joiner | _, .spacing => true
  | .prepended, _ => true
  | .l, .l | .l, .v | .l, .lv | .l, .lvt => true
  | .lv, .v | .lv, .t | .v, .v | .v, .t => true
  | .lvt, .t | .t, .t => true
  | .regional, .regional => x.oddRegionals
  | _, _ =>
    (x.emoji = .joined && isPictograph c)
      || (x.conjunct = .linked && ConjunctRole.ofChar c = .consonant)

end Context

/-! ## Clusters -/

/-- The clusters of a text, where `current` holds the characters of the cluster under way, the
last one first. -/
def clustersFrom (x : Context) (current : List Char) : List Char → List (List Char)
  | [] => [current.reverse]
  | c :: cs =>
    if x.joins c then clustersFrom (x.next c) (c :: current) cs
    else current.reverse :: clustersFrom (x.next c) [c] cs

/-- The extended grapheme clusters of a text. -/
def clusters : List Char → List (List Char)
  | [] => []
  | c :: cs => clustersFrom (Context.initial.next c) [c] cs

theorem flatten_clustersFrom (x : Context) (current cs : List Char) :
    (clustersFrom x current cs).flatten = current.reverse ++ cs := by
  induction cs generalizing x current with
  | nil => simp [clustersFrom]
  | cons c cs ih =>
    unfold clustersFrom
    split <;> simp [ih]

/-- The clusters of a text make up the text. -/
theorem flatten_clusters (cs : List Char) : (clusters cs).flatten = cs := by
  cases cs with
  | nil => rfl
  | cons c cs => simp [clusters, flatten_clustersFrom]

theorem ne_nil_of_mem_clustersFrom {x : Context} {current cs g : List Char}
    (hcurrent : current ≠ []) (hg : g ∈ clustersFrom x current cs) : g ≠ [] := by
  induction cs generalizing x current with
  | nil => simp_all [clustersFrom]
  | cons c cs ih =>
    unfold clustersFrom at hg
    split at hg
    · exact ih (by simp) hg
    · rcases List.mem_cons.1 hg with rfl | hg
      · simpa using hcurrent
      · exact ih (by simp) hg

/-- No cluster is empty. -/
theorem ne_nil_of_mem_clusters {cs g : List Char} (hg : g ∈ clusters cs) : g ≠ [] := by
  cases cs with
  | nil => simp [clusters] at hg
  | cons c cs => exact ne_nil_of_mem_clustersFrom (by simp) hg

/-- The number of characters of a text as a reader perceives them. -/
def graphemeCount (s : String) : Nat := (clusters s.toList).length

end MonkeyLang.Text
