import MonkeyLang.Proofs.Evaluation.Closures

/-!
# Parts of values

A value holds other values at any depth: the elements of arrays, and the keys and values of hashes
(`Value.PartOf`).  What a function closes over is in its frame and is no part of it.

A relation between values is a matter of their parts.  A value is related to the value with other
functions if each of its functions is related to the other one and each of its errors may stand in
values, and these are facts about the parts of every related value.
-/

namespace MonkeyLang

/-- The first value is the second one or stands in it, at any depth. -/
inductive Value.PartOf (p : Value) : Value → Prop where
  | self : Value.PartOf p p
  | element {v : Value} {elements : List Value} (mem : v ∈ elements) (part : Value.PartOf p v) :
      Value.PartOf p (.array elements)
  | key {e : Entry Value} {table : List (Entry Value)} (mem : e ∈ table)
      (part : Value.PartOf p e.key) : Value.PartOf p (.hash table)
  | value {e : Entry Value} {table : List (Entry Value)} (mem : e ∈ table)
      (part : Value.PartOf p e.value) : Value.PartOf p (.hash table)

section

variable {leaves : Leaves} {h : Closure → Closure}

/-! ## From parts to values -/

mutual

/-- A value is related to itself with other functions, if each function in it is related to the
other one and each error in it may stand in values. -/
lemma Value.related_of_parts (v : Value)
    (hclosures : ∀ f, (Value.function f).PartOf v → leaves.closures f (h f))
    (herrors : ∀ e, (Value.error e).PartOf v → leaves.errors e) :
    v.Related leaves (v.mapClosures h) := by
  match v with
  | .integer _ => exact .integer
  | .boolean _ => exact .boolean
  | .string _ => exact .string
  | .null => exact .null
  | .array elements =>
    exact .array (relatedElements_of_parts elements
      (fun v hv f hf => hclosures f (.element hv hf)) fun v hv e he => herrors e (.element hv he))
  | .hash table =>
    exact .hash (relatedEntries_of_parts table
      (fun d hd => ⟨fun f hf => hclosures f (.key hd hf), fun f hf => hclosures f (.value hd hf)⟩)
      fun d hd => ⟨fun e he => herrors e (.key hd he), fun e he => herrors e (.value hd he)⟩)
  | .function f => exact .function (hclosures f .self)
  | .builtin _ => exact .builtin
  | .error e => exact .error (herrors e .self)

lemma relatedElements_of_parts (vs : List Value)
    (hclosures : ∀ v ∈ vs, ∀ f, (Value.function f).PartOf v → leaves.closures f (h f))
    (herrors : ∀ v ∈ vs, ∀ e, (Value.error e).PartOf v → leaves.errors e) :
    RelatedElements leaves vs (mapClosuresElements h vs) := by
  match vs with
  | [] => exact .nil
  | v :: vs =>
    rw [List.forall_mem_cons] at hclosures herrors
    exact .cons (v.related_of_parts hclosures.1 herrors.1)
      (relatedElements_of_parts vs hclosures.2 herrors.2)

lemma relatedEntries_of_parts (es : List (Entry Value))
    (hclosures : ∀ d ∈ es, (∀ f, (Value.function f).PartOf d.key → leaves.closures f (h f)) ∧
      ∀ f, (Value.function f).PartOf d.value → leaves.closures f (h f))
    (herrors : ∀ d ∈ es, (∀ e, (Value.error e).PartOf d.key → leaves.errors e) ∧
      ∀ e, (Value.error e).PartOf d.value → leaves.errors e) :
    RelatedEntries leaves es (mapClosuresEntries h es) := by
  match es with
  | [] => exact .nil
  | ⟨_, key, value⟩ :: es =>
    rw [List.forall_mem_cons] at hclosures herrors
    exact .cons rfl (key.related_of_parts hclosures.1.1 herrors.1.1)
      (value.related_of_parts hclosures.1.2 herrors.1.2)
      (relatedEntries_of_parts es hclosures.2 herrors.2)

end

lemma Value.mapClosures_id (v : Value) : v.mapClosures id = v := by
  have hrefl : v.Related ⟨Eq, fun _ => True⟩ v := .refl (fun _ => rfl) (fun _ => trivial) v
  have hclosures : ∀ f g : Closure, f = g → g = id f := fun _ _ hfg => hfg.symm
  exact (hrefl.eq_mapClosures hclosures).symm

/-- Functions that are changed alike may be changed before. -/
lemma Value.mapClosures_congr {g : Closure → Closure} {v : Value}
    (hparts : ∀ f, (Value.function f).PartOf v → g f = h f) :
    v.mapClosures g = v.mapClosures h := by
  have hrelated : v.Related ⟨fun f f' => f' = h f, fun _ => True⟩ (v.mapClosures g) :=
    v.related_of_parts hparts fun _ _ => trivial
  exact hrelated.eq_mapClosures fun _ _ hf => hf

/-- The parts of a value with other functions are parts with other functions. -/
lemma Value.exists_of_partOf_mapClosures {q v : Value} (hq : q.PartOf (v.mapClosures h)) :
    ∃ p : Value, p.PartOf v ∧ p.mapClosures h = q := by
  generalize hv : v.mapClosures h = u at hq
  induction hq generalizing v with
  | self => exact ⟨v, .self, hv⟩
  | element mem _ ih =>
    cases v with
    | array xs =>
      obtain rfl := Value.array.inj hv
      rw [mapClosuresElements_eq_map] at mem
      obtain ⟨x, hx, rfl⟩ := List.mem_map.1 mem
      obtain ⟨p, hp, rfl⟩ := ih rfl
      exact ⟨p, .element hx hp, rfl⟩
    | _ => cases hv
  | key mem _ ih =>
    cases v with
    | hash es =>
      obtain rfl := Value.hash.inj hv
      rw [mapClosuresEntries_eq_map] at mem
      obtain ⟨e, he, rfl⟩ := List.mem_map.1 mem
      obtain ⟨p, hp, rfl⟩ := ih rfl
      exact ⟨p, .key he hp, rfl⟩
    | _ => cases hv
  | value mem _ ih =>
    cases v with
    | hash es =>
      obtain rfl := Value.hash.inj hv
      rw [mapClosuresEntries_eq_map] at mem
      obtain ⟨e, he, rfl⟩ := List.mem_map.1 mem
      obtain ⟨p, hp, rfl⟩ := ih rfl
      exact ⟨p, .value he hp, rfl⟩
    | _ => cases hv

lemma Value.PartOf.mapClosures {p v : Value} (hp : p.PartOf v) (h : Closure → Closure) :
    (p.mapClosures h).PartOf (v.mapClosures h) := by
  induction hp with
  | self => exact .self
  | element mem _ ih =>
    rw [Value.mapClosures, mapClosuresElements_eq_map]
    exact .element (List.mem_map_of_mem mem) ih
  | key mem _ ih =>
    rw [Value.mapClosures, mapClosuresEntries_eq_map]
    exact .key (List.mem_map_of_mem (f := fun e : Entry Value => _) mem) ih
  | value mem _ ih =>
    rw [Value.mapClosures, mapClosuresEntries_eq_map]
    exact .value (List.mem_map_of_mem (f := fun e : Entry Value => _) mem) ih

/-! ## From values to parts -/

/-- What stands in a list of related values is related to something. -/
lemma RelatedElements.exists_of_mem {vs vs' : List Value} (hvs : RelatedElements leaves vs vs')
    {v : Value} (hv : v ∈ vs) : ∃ v', v.Related leaves v' := by
  induction vs generalizing vs' with
  | nil => exact absurd hv List.not_mem_nil
  | cons u us ih =>
    cases hvs with
    | cons first others =>
      rcases List.mem_cons.1 hv with rfl | hmem
      · exact ⟨_, first⟩
      · exact ih others hmem

lemma RelatedEntries.exists_of_mem {ds es : List (Entry Value)} (h : RelatedEntries leaves ds es)
    {d : Entry Value} (hd : d ∈ ds) :
    (∃ k, d.key.Related leaves k) ∧ ∃ v, d.value.Related leaves v := by
  induction ds generalizing es with
  | nil => exact absurd hd List.not_mem_nil
  | cons d' ds ih =>
    cases h with
    | cons _ key value others =>
      rcases List.mem_cons.1 hd with rfl | hmem
      · exact ⟨⟨_, key⟩, ⟨_, value⟩⟩
      · exact ih others hmem

/-- Every part of a related value is related to something. -/
lemma Value.Related.exists_of_partOf {p v v' : Value} (hpart : p.PartOf v)
    (hv : v.Related leaves v') : ∃ p', p.Related leaves p' := by
  induction hpart generalizing v' with
  | self => exact ⟨v', hv⟩
  | element mem _ ih =>
    cases hv with
    | array elements =>
      obtain ⟨_, hrelated⟩ := elements.exists_of_mem mem
      exact ih hrelated
  | key mem _ ih =>
    cases hv with
    | hash entries =>
      obtain ⟨_, hrelated⟩ := (entries.exists_of_mem mem).1
      exact ih hrelated
  | value mem _ ih =>
    cases hv with
    | hash entries =>
      obtain ⟨_, hrelated⟩ := (entries.exists_of_mem mem).2
      exact ih hrelated

/-- The functions in a related value are related to others. -/
lemma Value.Related.closures_of_partOf {v v' : Value} (hv : v.Related leaves v') {f : Closure}
    (hf : (Value.function f).PartOf v) : ∃ g, leaves.closures f g := by
  obtain ⟨_, hrelated⟩ := hv.exists_of_partOf hf
  cases hrelated with
  | function closures => exact ⟨_, closures⟩

/-- The errors in a related value may stand in values. -/
lemma Value.Related.errors_of_partOf {v v' : Value} (hv : v.Related leaves v')
    {e : RuntimeError} (he : (Value.error e).PartOf v) : leaves.errors e := by
  obtain ⟨_, hrelated⟩ := hv.exists_of_partOf he
  cases hrelated with
  | error allowed => exact allowed

/-! ## Values related to themselves only -/

/-- If functions are related to themselves only, so are values, and their parts say which. -/
theorem Value.related_iff_parts {P : Closure → Prop}
    (hclosures : ∀ f g, leaves.closures f g ↔ f = g ∧ P f) {v v' : Value} :
    v.Related leaves v' ↔ v = v' ∧ (∀ f, (Value.function f).PartOf v → P f) ∧
      ∀ e, (Value.error e).PartOf v → leaves.errors e := by
  constructor
  · intro hv
    refine ⟨hv.eq fun f g hfg => ((hclosures f g).1 hfg).1, fun f hf => ?_,
      fun e => hv.errors_of_partOf⟩
    obtain ⟨g, hfg⟩ := hv.closures_of_partOf hf
    exact ((hclosures f g).1 hfg).2
  · rintro ⟨rfl, hfunctions, herrors⟩
    have hself : v.Related leaves (v.mapClosures id) :=
      v.related_of_parts (fun f hf => (hclosures f f).2 ⟨rfl, hfunctions f hf⟩) herrors
    rwa [Value.mapClosures_id] at hself

lemma relatedElements_iff_forall {P : Value → Prop}
    (hvalues : ∀ v v', Value.Related leaves v v' ↔ v = v' ∧ P v) {vs vs' : List Value} :
    RelatedElements leaves vs vs' ↔ vs = vs' ∧ ∀ v ∈ vs, P v := by
  rw [relatedElements_iff]
  constructor
  · intro hvs
    obtain rfl : vs = vs' :=
      List.forall₂_eq_eq_eq ▸ hvs.imp fun v v' hv => ((hvalues v v').1 hv).1
    exact ⟨rfl, fun v hv => ((hvalues v v).1 (List.forall₂_same.1 hvs v hv)).2⟩
  · rintro ⟨rfl, hvs⟩
    exact List.forall₂_same.2 fun v hv => (hvalues v v).2 ⟨rfl, hvs v hv⟩

end

end MonkeyLang
