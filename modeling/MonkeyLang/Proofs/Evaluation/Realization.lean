import MonkeyLang.Proofs.Evaluation.Bound
import MonkeyLang.Proofs.Evaluation.Numbering

/-!
# Calls beside other work

A call that is made beside other work ends as it would without: with the same value, up to numbers
(`numbering.exists_apply_value`), or with the same error (`numbering.exists_apply_failed`).  The
bound on nested calls may be any larger one, since nothing is said of calls that use up theirs.

Some work is not even in the state: the log reports it and nothing else (`Eval.LeadsTo`).
-/

namespace MonkeyLang

/-! ## Ends of calls -/

namespace numbering

variable {others : Extent} {N : Numbering} {m m' : Eval Value} {s s' t : State} {v : Value}
  {e : RuntimeError}

lemma exists_value (h : (numbering others).Agree N (numbering others).values m m')
    (hs : NumberedStates others N s s') (hv : m s = .value v t) :
    ∃ N' v' t', N ≤ N' ∧ m' s' = .value v' t' ∧ NumberedStates others N' t t' ∧
      v.Related N'.leaves v' := by
  have houtcomes := h N (le_refl N) s s' hs
  rw [hv] at houtcomes
  generalize m' s' = o at houtcomes ⊢
  cases houtcomes with
  | value larger states related => exact ⟨_, _, _, larger, rfl, states, related⟩

lemma exists_failed (h : (numbering others).Agree N (numbering others).values m m')
    (hs : NumberedStates others N s s') (he : m s = .signal (.failed e) t) :
    ∃ N' t', N ≤ N' ∧ m' s' = .signal (.failed e) t' ∧ NumberedStates others N' t t' := by
  have houtcomes := h N (le_refl N) s s' hs
  rw [he] at houtcomes
  generalize m' s' = o at houtcomes ⊢
  cases houtcomes with
  | signal larger states related =>
    cases related
    exact ⟨_, _, larger, rfl, states⟩

variable {table : BuiltinTable} {d depth : Nat} {f f' : Value} {args args' : List Value}

/-- A call that has a value has it beside other work, too. -/
theorem exists_apply_value (hle : d ≤ depth) (hs : NumberedStates others N s s')
    (hf : f.Related N.leaves f') (hargs : RelatedElements N.leaves args args')
    (hv : apply table d f args s = .value v t) :
    ∃ N' v' t', N ≤ N' ∧ apply table depth f' args' s' = .value v' t' ∧
      NumberedStates others N' t t' ∧ v.Related N'.leaves v' := by
  obtain ⟨N', v', t', hN', hv', hrest⟩ :=
    exists_value (numbering.callsAgree table d N f f' args args' hf hargs) hs hv
  refine ⟨N', v', t', hN', ?_, hrest⟩
  rw [← hv']
  exact (apply_approximates table hle f' args').eq_of_ne (hv' ▸ nofun)

/-- A call that fails does so beside other work, too. -/
theorem exists_apply_failed (hle : d ≤ depth) (hs : NumberedStates others N s s')
    (hf : f.Related N.leaves f') (hargs : RelatedElements N.leaves args args')
    (he : apply table d f args s = .signal (.failed e) t) :
    ∃ N' t', N ≤ N' ∧ apply table depth f' args' s' = .signal (.failed e) t' ∧
      NumberedStates others N' t t' := by
  obtain ⟨N', t', hN', he', hrest⟩ :=
    exists_failed (numbering.callsAgree table d N f f' args args' hf hargs) hs he
  refine ⟨N', t', hN', ?_, hrest⟩
  rw [← he']
  exact (apply_approximates table hle f' args').eq_of_ne (he' ▸ nofun)

end numbering

/-! ## Steps that only the log shows -/

/-- The states differ at most in what the log reports. -/
def State.Logs (s t : State) : Prop := ∃ events, t = { s with events := events }

lemma State.Logs.refl (s : State) : s.Logs s := ⟨s.events, rfl⟩

lemma State.Logs.trans {s t u : State} (h : s.Logs t) (h' : t.Logs u) : s.Logs u := by
  obtain ⟨_, rfl⟩ := h
  obtain ⟨events, rfl⟩ := h'
  exact ⟨events, rfl⟩

lemma State.logs_note (e : Log.Event) (s : State) : s.Logs (s.note e) := by
  unfold note
  split
  · exact .refl s
  · exact ⟨_, rfl⟩

lemma State.Logs.frames_eq {s t : State} (h : s.Logs t) : t.frames = s.frames := by
  obtain ⟨_, rfl⟩ := h
  rfl

/-- The first evaluation does what the second one does behind steps that only the log shows. -/
def Eval.LeadsTo {α : Type} (m n : Eval α) (s : State) : Prop := ∃ t, s.Logs t ∧ m s = n t

namespace Eval.LeadsTo

variable {α β : Type} {m n : Eval α} {s : State}

lemma refl (m : Eval α) (s : State) : m.LeadsTo m s := ⟨s, .refl s, rfl⟩

lemma trans {k : Eval α} (h : m.LeadsTo n s) (h' : ∀ t, s.Logs t → n.LeadsTo k t) :
    m.LeadsTo k s := by
  obtain ⟨t, ht, hm⟩ := h
  obtain ⟨u, hu, hn⟩ := h' t ht
  exact ⟨u, ht.trans hu, hm.trans hn⟩

lemma note (e : Log.Event) (s : State) : (Eval.note e).LeadsTo (pure ()) s :=
  ⟨s.note e, s.logs_note e, rfl⟩

lemma bind_congr (h : m.LeadsTo n s) (f : α → Eval β) : (m >>= f).LeadsTo (n >>= f) s := by
  obtain ⟨t, ht, hm⟩ := h
  exact ⟨t, ht, by rw [Eval.bind_apply, Eval.bind_apply, hm]⟩

lemma bind {a : α} {f : α → Eval β} {k : Eval β} (h : m.LeadsTo (pure a) s)
    (hf : ∀ t, s.Logs t → (f a).LeadsTo k t) : (m >>= f).LeadsTo k s :=
  (h.bind_congr f).trans fun t ht => pure_bind a f ▸ hf t ht

end Eval.LeadsTo

lemma NumberedStates.logs {others : Extent} {N : Numbering} {s s' t : State}
    (h : NumberedStates others N s s') (ht : s'.Logs t) : NumberedStates others N s t := by
  obtain ⟨_, rfl⟩ := ht
  exact ⟨h.made, h.made', h.continues, h.frames, h.printed⟩

end MonkeyLang
