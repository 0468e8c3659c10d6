import MonkeyLang.Proofs.Evaluation.Erasure
import MonkeyLang.Proofs.Syntax.Alignment
import MonkeyLang.Proofs.Syntax.Termination

/-!
# Texts with the same tokens

Two texts may differ in the blanks between their tokens, and so in all spans.  They are parsed
alike, with their errors at the same tokens, and their programs do the same.
-/

namespace MonkeyLang

open MonkeyLang.Parser TokenStream

/-! ## Parsing -/

/-- The same error of two texts, at tokens with the same number. -/
structure SameError (S T : String) (e e' : ParseError) : Prop where
  fault : e.fault = e'.fault
  message : e.message = e'.message
  span : ∃ n, e.span = ((TokenStream.ofText S).tokenAt n).span ∧
    e'.span = ((TokenStream.ofText T).tokenAt n).span

/-- Programs that are equal up to spans, or the same errors in the same order. -/
inductive SameParse (S T : String) :
    Except (List ParseError) Program → Except (List ParseError) Program → Prop where
  | ok {p q : Program} (eraseSpans_eq : p.eraseSpans = q.eraseSpans) : SameParse S T (.ok p) (.ok q)
  | error {es es' : List ParseError} (errors : List.Forall₂ (SameError S T) es es') :
      SameParse S T (.error es) (.error es')

section

variable {S T : String}

section

variable {h : (TokenStream.ofText S).tokens.map Token.eraseSpan =
  (TokenStream.ofText T).tokens.map Token.eraseSpan}

lemma sameError_of_errors {e e' : ParseError}
    (herrors : (Alignment.layout h).Errors e e') : SameError S T e e' := by
  obtain ⟨fault, _, _, ⟨n, rfl, rfl⟩, hspan, hspan'⟩ := herrors
  exact ⟨fault, congrArg ParseFault.message fault, n, hspan, hspan'⟩

end

/-- Texts with the same tokens are parsed alike. -/
lemma sameParse (h : (Token.scan S).map Token.eraseSpan = (Token.scan T).map Token.eraseSpan) :
    SameParse S T (Program.parse S) (Program.parse T) := by
  have houtcomes := Alignment.outcomes_layout h (statements_ofText_ne_exhausted S)
    (statements_ofText_ne_exhausted T)
  rw [← Program.parse_eq_outcome, ← Program.parse_eq_outcome] at houtcomes
  generalize Program.parse S = o, Program.parse T = o' at houtcomes ⊢
  cases houtcomes with
  | ok trees => exact .ok trees
  | error errors => exact .error (errors.imp fun _ _ => sameError_of_errors)

end

/-! ## Evaluation -/

/-- Runs with the same result, that printed the same and left the same state, up to spans. -/
structure SameRun (r r' : Run (Option Value)) : Prop where
  result : r.result.map Value.eraseSpans = r'.result.map Value.eraseSpans
  display : r.result.map Value.display = r'.result.map Value.display
  printed : r.printed = r'.printed
  next : r.next.eraseSpans = r'.next.eraseSpans

lemma sameRun_of_eraseSpans_eq {r r' : Run (Option Value)} (h : r.eraseSpans = r'.eraseSpans) :
    SameRun r r' := by
  have hdisplay : ∀ o : Option Value,
      (o.map Value.eraseSpans).map Value.display = o.map Value.display := by
    intro o
    rw [Option.map_map]
    exact congrArg (fun f => Option.map f o) (funext Value.display_eraseSpans)
  have hresult : r.eraseSpans.result = r'.eraseSpans.result := by rw [h]
  have hprinted : r.eraseSpans.printed = r'.eraseSpans.printed := by rw [h]
  have hnext : r.eraseSpans.next = r'.eraseSpans.next := by rw [h]
  refine ⟨hresult, ?_, hprinted, hnext⟩
  rw [← hdisplay r.result, ← hdisplay r'.result]
  exact congrArg (Option.map Value.display) hresult

/-- Programs that are equal up to spans do the same in interpreters that are. -/
lemma sameRun {p q : Program} {i j : Interpreter} (hp : p.eraseSpans = q.eraseSpans)
    (hi : i.eraseSpans = j.eraseSpans) (depth : Nat) :
    OptionRelated SameRun (i.run depth p) (j.run depth q) := by
  have hrun := Interpreter.run_eq_of_eraseSpans_eq hp hi depth
  generalize i.run depth p = o at hrun ⊢
  generalize j.run depth q = o' at hrun ⊢
  cases o with
  | none =>
    cases o' with
    | none => exact .none
    | some r' => cases hrun
  | some r =>
    cases o' with
    | none => cases hrun
    | some r' => exact .some (sameRun_of_eraseSpans_eq (Option.some.inj hrun))

/-! ## Layout -/

/-- Texts with the same tokens are parsed alike, and what can be parsed of them does the same in
interpreters that are equal up to spans. -/
theorem behaviour_of_map_eraseSpan_eq {S T : String}
    (h : (Token.scan S).map Token.eraseSpan = (Token.scan T).map Token.eraseSpan) :
    SameParse S T (Program.parse S) (Program.parse T) ∧
      ∀ p q, Program.parse S = .ok p → Program.parse T = .ok q →
        ∀ depth (i j : Interpreter), i.eraseSpans = j.eraseSpans →
          OptionRelated SameRun (i.run depth p) (j.run depth q) := by
  refine ⟨sameParse h, fun p q hp hq depth i j hi => ?_⟩
  have hparse := sameParse h
  rw [hp, hq] at hparse
  cases hparse with
  | ok eraseSpans_eq => exact sameRun eraseSpans_eq hi depth

/-- Blanks in a binding and a call of what it binds. -/
theorem behaviour_of_map_eraseSpan_eq_blanks :
    (Token.scan "let f=fn(x){x};f(1)").map Token.eraseSpan =
        (Token.scan " let f = fn (x) {x} ;\n f( 1 )").map Token.eraseSpan ∧
      ∃ p q, Program.parse "let f=fn(x){x};f(1)" = .ok p ∧
        Program.parse " let f = fn (x) {x} ;\n f( 1 )" = .ok q ∧
        OptionRelated SameRun (Interpreter.standard.run 9 p) (Interpreter.standard.run 9 q) := by
  have htokens : (Token.scan "let f=fn(x){x};f(1)").map Token.eraseSpan =
      (Token.scan " let f = fn (x) {x} ;\n f( 1 )").map Token.eraseSpan := by decide +kernel
  obtain ⟨hparse, hrun⟩ := behaviour_of_map_eraseSpan_eq htokens
  have hok : (Program.parse "let f=fn(x){x};f(1)").isOk = true := by decide +kernel
  generalize Program.parse "let f=fn(x){x};f(1)" = o at *
  generalize Program.parse " let f = fn (x) {x} ;\n f( 1 )" = o' at *
  cases hparse with
  | @ok p q => exact ⟨htokens, p, q, rfl, rfl, hrun p q rfl rfl 9 _ _ rfl⟩
  | error => cases hok

end MonkeyLang
