import MonkeyLang.Proofs.Evaluation.Relation

/-!
# Values with other functions

`Value.mapClosures h` is the value with `h f` in place of every function `f` that a program made,
at any depth.  It is what a value is related to where the only related function of `f` is `h f`.
Frames whose bindings are changed in this way are looked up and written alike.
-/

namespace MonkeyLang

mutual

/-- The value with other functions. -/
def Value.mapClosures (h : Closure → Closure) : Value → Value
  | .integer n => .integer n
  | .boolean b => .boolean b
  | .string s => .string s
  | .null => .null
  | .array elements => .array (mapClosuresElements h elements)
  | .hash entries => .hash (mapClosuresEntries h entries)
  | .function f => .function (h f)
  | .builtin b => .builtin b
  | .error e => .error e

/-- The elements of an array with other functions. -/
def mapClosuresElements (h : Closure → Closure) : List Value → List Value
  | [] => []
  | v :: vs => v.mapClosures h :: mapClosuresElements h vs

/-- The entries of a hash with other functions. -/
def mapClosuresEntries (h : Closure → Closure) : List (Entry Value) → List (Entry Value)
  | [] => []
  | ⟨hashKey, key, value⟩ :: es =>
    ⟨hashKey, key.mapClosures h, value.mapClosures h⟩ :: mapClosuresEntries h es

end

lemma mapClosuresElements_eq_map (h : Closure → Closure) (vs : List Value) :
    mapClosuresElements h vs = vs.map (Value.mapClosures h) := by
  induction vs with
  | nil => rfl
  | cons v vs ih => rw [mapClosuresElements, ih, List.map_cons]

lemma mapClosuresEntries_eq_map (h : Closure → Closure) (es : List (Entry Value)) :
    mapClosuresEntries h es =
      es.map fun e => ⟨e.hashKey, e.key.mapClosures h, e.value.mapClosures h⟩ := by
  induction es with
  | nil => rfl
  | cons e es ih => rw [mapClosuresEntries, ih, List.map_cons]

mutual

lemma Value.mapClosures_mapClosures (g h : Closure → Closure) :
    ∀ v : Value, (v.mapClosures h).mapClosures g = v.mapClosures (g ∘ h)
  | .integer _ | .boolean _ | .string _ | .null | .function _ | .builtin _ | .error _ => rfl
  | .array elements => congrArg Value.array (mapClosuresElements_mapClosures g h elements)
  | .hash entries => congrArg Value.hash (mapClosuresEntries_mapClosures g h entries)

lemma mapClosuresElements_mapClosures (g h : Closure → Closure) : ∀ vs : List Value,
    mapClosuresElements g (mapClosuresElements h vs) = mapClosuresElements (g ∘ h) vs
  | [] => rfl
  | v :: vs => congrArg₂ List.cons (v.mapClosures_mapClosures g h)
    (mapClosuresElements_mapClosures g h vs)

lemma mapClosuresEntries_mapClosures (g h : Closure → Closure) : ∀ es : List (Entry Value),
    mapClosuresEntries g (mapClosuresEntries h es) = mapClosuresEntries (g ∘ h) es
  | [] => rfl
  | ⟨hashKey, key, value⟩ :: es => congrArg₂ List.cons
    (congrArg₂ (Entry.mk hashKey) (key.mapClosures_mapClosures g h)
      (value.mapClosures_mapClosures g h))
    (mapClosuresEntries_mapClosures g h es)

end

lemma Value.isTruthy_mapClosures (h : Closure → Closure) (v : Value) :
    (v.mapClosures h).isTruthy = v.isTruthy := by
  cases v <;> rfl

section

variable {leaves : Leaves} {h : Closure → Closure}

mutual

/-- A value is related to itself with other functions, if each function is related to the other
one. -/
lemma Value.related_mapClosures (hclosures : ∀ f, leaves.closures f (h f))
    (herrors : ∀ e, leaves.errors e) (v : Value) : v.Related leaves (v.mapClosures h) := by
  match v with
  | .integer _ => exact .integer
  | .boolean _ => exact .boolean
  | .string _ => exact .string
  | .null => exact .null
  | .array elements => exact .array (relatedElements_mapClosures hclosures herrors elements)
  | .hash entries => exact .hash (relatedEntries_mapClosures hclosures herrors entries)
  | .function f => exact .function (hclosures f)
  | .builtin _ => exact .builtin
  | .error e => exact .error (herrors e)

lemma relatedElements_mapClosures (hclosures : ∀ f, leaves.closures f (h f))
    (herrors : ∀ e, leaves.errors e) (vs : List Value) :
    RelatedElements leaves vs (mapClosuresElements h vs) := by
  match vs with
  | [] => exact .nil
  | v :: vs =>
    exact .cons (v.related_mapClosures hclosures herrors)
      (relatedElements_mapClosures hclosures herrors vs)

lemma relatedEntries_mapClosures (hclosures : ∀ f, leaves.closures f (h f))
    (herrors : ∀ e, leaves.errors e) (es : List (Entry Value)) :
    RelatedEntries leaves es (mapClosuresEntries h es) := by
  match es with
  | [] => exact .nil
  | ⟨_, key, value⟩ :: es =>
    exact .cons rfl (key.related_mapClosures hclosures herrors)
      (value.related_mapClosures hclosures herrors)
      (relatedEntries_mapClosures hclosures herrors es)

end

mutual

/-- What a value is related to is the value with other functions, if related functions are given
by a map. -/
lemma Value.Related.eq_mapClosures (hclosures : ∀ f g, leaves.closures f g → g = h f)
    {v v' : Value} (hv : v.Related leaves v') : v' = v.mapClosures h := by
  cases hv with
  | array elements => rw [Value.mapClosures, elements.eq_mapClosures hclosures]
  | hash entries => rw [Value.mapClosures, entries.eq_mapClosures hclosures]
  | function closures => rw [Value.mapClosures, hclosures _ _ closures]
  | _ => rfl

lemma RelatedElements.eq_mapClosures (hclosures : ∀ f g, leaves.closures f g → g = h f)
    {vs vs' : List Value} (hvs : RelatedElements leaves vs vs') :
    vs' = mapClosuresElements h vs := by
  cases hvs with
  | nil => rfl
  | cons first others =>
    rw [mapClosuresElements, first.eq_mapClosures hclosures, others.eq_mapClosures hclosures]

lemma RelatedEntries.eq_mapClosures (hclosures : ∀ f g, leaves.closures f g → g = h f)
    {es es' : List (Entry Value)} (hes : RelatedEntries leaves es es') :
    es' = mapClosuresEntries h es := by
  cases hes with
  | nil => rfl
  | @cons d e _ _ hashKey key value others =>
    obtain ⟨_, _, _⟩ := d
    obtain ⟨_, _, _⟩ := e
    obtain rfl := hashKey
    rw [mapClosuresEntries, ← key.eq_mapClosures hclosures, ← value.eq_mapClosures hclosures,
      others.eq_mapClosures hclosures]

end

end

/-! ## States -/

section

variable (h : Closure → Closure)

/-- The frame with other functions in its bindings. -/
def Frame.mapClosures (f : Frame) : Frame :=
  { f with bindings := f.bindings.map fun b => (b.1, b.2.mapClosures h) }

/-- The frames with other functions in their bindings. -/
def Frames.mapClosures (frames : Frames) : Frames := frames.map (Frame.mapClosures h)

/-- The state with other functions in its frames. -/
def State.mapClosures (s : State) : State := { s with frames := s.frames.mapClosures h }

variable {h}

lemma Bindings.get?_map {g : Value → Value} (name : String) (b : Bindings) :
    Bindings.get? name (b.map fun p => (p.1, g p.2)) = (b.get? name).map g := by
  induction b with
  | nil => rfl
  | cons p rest ih =>
    rw [List.map_cons, get?, get?, ih]
    split <;> rfl

lemma Bindings.insert_map {g : Value → Value} (name : String) (v : Value) (b : Bindings) :
    Bindings.insert name (g v) (b.map fun p => (p.1, g p.2)) =
      (b.insert name v).map fun p => (p.1, g p.2) := by
  induction b with
  | nil => rfl
  | cons p rest ih =>
    rw [List.map_cons, insert, insert, ih]
    split <;> rfl

namespace Frames

lemma getElem?_mapClosures (frames : Frames) (i : FrameId) :
    (frames.mapClosures h)[i]? = (frames[i]?).map (Frame.mapClosures h) :=
  Array.getElem?_map

/-- Functions in bindings do not matter to what a look-up visits. -/
lemma chain_mapClosures (frames : Frames) (i : FrameId) :
    (frames.mapClosures h).chain i = frames.chain i := by
  have hupTo : ∀ limit i, (frames.mapClosures h).chainUpTo limit i = frames.chainUpTo limit i := by
    intro limit
    induction limit with
    | zero => exact fun _ => rfl
    | succ limit ih =>
      intro i
      rw [chainUpTo, chainUpTo, getElem?_mapClosures]
      cases frames[i]? with
      | none => rfl
      | some f =>
        cases hparent : f.parent with
        | none => simp only [Option.map_some, Frame.mapClosures, hparent]
        | some p => simp only [Option.map_some, Frame.mapClosures, hparent, ih]
  exact hupTo _ i

lemma lookup_mapClosures (frames : Frames) (i : FrameId) (name : String) :
    (frames.mapClosures h).lookup i name = (frames.lookup i name).map (Value.mapClosures h) := by
  have hlocal : (frames.mapClosures h).local? name =
      Option.map (Value.mapClosures h) ∘ frames.local? name := by
    funext i
    rw [Function.comp, local?, local?, getElem?_mapClosures]
    cases frames[i]? with
    | none => rfl
    | some f => exact Bindings.get?_map name f.bindings
  rw [lookup, lookup, chain_mapClosures, hlocal, List.map_findSome?]

lemma set_mapClosures (frames : Frames) (i : FrameId) (name : String) (v : Value) :
    (frames.mapClosures h).set i name (v.mapClosures h) =
      (frames.set i name v).mapClosures h := by
  refine Array.ext_getElem? fun j => ?_
  rw [getElem?_mapClosures, set, set, Array.getElem?_modify, Array.getElem?_modify,
    getElem?_mapClosures]
  split
  · rw [Option.map_map, Option.map_map]
    congr 1
    funext f
    simp only [Function.comp, Frame.mapClosures, Bindings.insert_map]
  · rfl

lemma clear_mapClosures (frames : Frames) (i : FrameId) :
    (frames.mapClosures h).clear i = (frames.clear i).mapClosures h := by
  refine Array.ext_getElem? fun j => ?_
  rw [getElem?_mapClosures, clear, clear, Array.getElem?_modify, Array.getElem?_modify,
    getElem?_mapClosures]
  split
  · rw [Option.map_map, Option.map_map]
    rfl
  · rfl

lemma child_mapClosures (frames : Frames) (i : FrameId) :
    ((frames.mapClosures h).child i).2 = (frames.child i).2.mapClosures h := by
  rw [child, child, mapClosures, mapClosures, Array.map_push]
  rfl

lemma size_mapClosures (frames : Frames) : (frames.mapClosures h).size = frames.size :=
  Array.size_map

end Frames

lemma State.note_mapClosures (e : Log.Event) (s : State) :
    (s.mapClosures h).note e = (s.note e).mapClosures h := by
  unfold note
  by_cases he : e ∈ s.events
  · have he' : e ∈ (s.mapClosures h).events := he
    rw [if_pos he, if_pos he']
  · have he' : e ∉ (s.mapClosures h).events := he
    rw [if_neg he, if_neg he']
    rfl

end

end MonkeyLang
