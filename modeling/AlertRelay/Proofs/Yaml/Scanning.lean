import AlertRelay.Proofs.Failure
import AlertRelay.Yaml.Token.Stream

/-!
# What scanning fails with

A text is refused by the scanner for its form, with two exceptions: an escape may
name a number that is no character, and a version may be too long for a number.
-/

namespace AlertRelay.Yaml

open AlertRelay.Text

def IsScanFault (f : Fault) : Prop := f = .malformed ∨ f = .noSuchValue ∨ f = .tooLarge

theorem isScanFault_malformed : IsScanFault .malformed := .inl rfl

theorem isScanFault_noSuchValue : IsScanFault .noSuchValue := .inr (.inl rfl)

theorem isScanFault_tooLarge : IsScanFault .tooLarge := .inr (.inr rfl)

/-! ## Words -/

theorem restOfLine_fails (c : Cursor) : FailsWith IsScanFault (restOfLine c) :=
  .ite (.ok _) (.error isScanFault_malformed)

theorem escapedChars_fails (bytes : List UInt8) : FailsWith IsScanFault (escapedChars bytes) := by
  simp only [escapedChars]
  split
  · exact .ok _
  · exact .error isScanFault_malformed

theorem uriFrom_fails (pending : List UInt8) (s : List Char) :
    FailsWith IsScanFault (uriFrom pending s) := by
  fun_induction uriFrom pending s with
  | case1 pending a b rest high low hlow hhigh ih => exact .bind ih fun _ _ => .pure _
  | case2 => exact .error isScanFault_malformed
  | case3 => exact .error isScanFault_malformed
  | case4 pending c rest _ hc ih =>
      exact .bind (escapedChars_fails pending) fun _ _ =>
        .ite (.bind ih fun _ _ => .pure _) (.pure _)
  | case5 pending => exact .bind (escapedChars_fails pending) fun _ _ => .pure _

theorem scanUri_fails (c : Cursor) : FailsWith IsScanFault (scanUri c) :=
  .bind (uriFrom_fails [] c.rest) fun _ _ => .ite (.error isScanFault_malformed) (.pure _)

theorem scanHandle_fails (c : Cursor) : FailsWith IsScanFault (scanHandle c) :=
  .ite (.error isScanFault_malformed)
    (.ite (.ok _) (.ite (.ok _) (.error isScanFault_malformed)))

theorem scanVersion_fails (c : Cursor) : FailsWith IsScanFault (scanVersion c) :=
  .ite (.error isScanFault_noSuchValue)
    (.ite (.error isScanFault_malformed)
      (.ite (.error isScanFault_noSuchValue) (.ite (.error isScanFault_malformed) (.ok _))))

theorem scanTagHandle_fails (c : Cursor) : FailsWith IsScanFault (scanTagHandle c) :=
  .bind (scanHandle_fails c) fun _ _ => .ite (.error isScanFault_malformed)
    (.bind (scanUri_fails _) fun _ _ => .ite (.pure _) (.error isScanFault_malformed))

theorem scanDirective_fails (c : Cursor) : FailsWith IsScanFault (scanDirective c) := by
  have hrest (r : Directive × Cursor) :
      FailsWith IsScanFault (do return (r.1, ← restOfLine r.2)) :=
    .bind (restOfLine_fails r.2) fun _ _ => .pure _
  refine .ite (.error isScanFault_malformed) (.ite ?_ (.ite ?_ ?_))
  · exact .bind (scanVersion_fails _) fun r _ => hrest r
  · exact .bind (scanTagHandle_fails _) fun r _ => hrest r
  · exact .bind (.ok _) fun r _ => hrest r

theorem scanName_fails (c : Cursor) : FailsWith IsScanFault (scanName c) :=
  .ite (.error isScanFault_malformed) (.ok _)

theorem scanTag_fails (c : Cursor) : FailsWith IsScanFault (scanTag c) := by
  have hend (r : Token × Cursor) : FailsWith IsScanFault
      (if endsPhrase r.2.peek = true then pure r else .error .malformed) :=
    .ite (.pure _) (.error isScanFault_malformed)
  refine .ite ?_ (.ite ?_ (.ite ?_ ?_))
  · refine .bind (scanUri_fails _) fun _ _ => .ite ?_ ?_
    · exact .bind (.ok _) fun r _ => hend r
    · exact .bind (.error isScanFault_malformed) fun r _ => hend r
  · exact .bind (.ok _) fun r _ => hend r
  · exact .bind (scanHandle_fails _) fun _ _ => .bind (scanUri_fails _) fun _ _ =>
      .bind (.ok _) fun r _ => hend r
  · exact .bind (scanUri_fails _) fun _ _ => .bind (.ok _) fun r _ => hend r

/-! ## Scalars -/

theorem escapedPoint_fails (width : Nat) (c : Cursor) :
    FailsWith IsScanFault (escapedPoint width c) := by
  simp only [escapedPoint]
  split
  · refine .ite (.error isScanFault_malformed) (.ite (.error isScanFault_tooLarge) ?_)
    split
    · exact .ok _
    · exact .error isScanFault_noSuchValue
  · exact .error isScanFault_malformed

theorem quotedBreaks_fails (steps : Nat) (c : Cursor) :
    FailsWith IsScanFault (quotedBreaks steps c) := by
  induction steps generalizing c with
  | zero => exact .ok _
  | succ steps ih =>
      simp only [quotedBreaks]
      refine .ite (.error isScanFault_malformed) ?_
      split
      · exact .ok _
      · exact .bind (ih _) fun _ _ => .pure _

theorem quotedGap_fails (steps : Nat) (c : Cursor) :
    FailsWith IsScanFault (quotedGap steps c) := by
  simp only [quotedGap]
  split
  · exact .error isScanFault_malformed
  · exact .ok _
  · exact .bind (quotedBreaks_fails _ _) fun _ _ => .pure _

theorem doubleQuotedWord_fails (steps : Nat) (c : Cursor) :
    FailsWith IsScanFault (doubleQuotedWord steps c) := by
  induction steps generalizing c with
  | zero => exact .ok _
  | succ steps ih =>
      simp only [doubleQuotedWord]
      split
      · exact .ok _
      · exact .ok _
      · split
        · exact .error isScanFault_malformed
        · split
          · exact .bind (ih _) fun _ _ => .pure _
          · exact .bind (escapedPoint_fails _ _) fun _ _ => .bind (ih _) fun _ _ => .pure _
          · exact .bind (quotedBreaks_fails _ _) fun _ _ => .bind (ih _) fun _ _ => .pure _
          · exact .error isScanFault_malformed
      · exact .ite (.ok _) (.bind (ih _) fun _ _ => .pure _)

theorem quotedBody_fails (mark : Char) (steps : Nat) (c : Cursor) :
    FailsWith IsScanFault (quotedBody mark steps c) := by
  induction steps generalizing c with
  | zero => exact .error isScanFault_malformed
  | succ steps ih =>
      refine .ite (.bind (doubleQuotedWord_fails _ _) fun _ _ => ?_) (.bind (.ok _) fun _ _ => ?_)
      all_goals
        refine .ite (.pure _) (.bind (quotedGap_fails _ _) fun _ _ => ?_)
        exact .bind (ih _) fun _ _ => .pure _

theorem scanQuoted_fails (mark : Char) (c : Cursor) :
    FailsWith IsScanFault (scanQuoted mark c) :=
  .bind (quotedBody_fails _ _ _) fun _ _ => .pure _

theorem blockIndicators_fails (c : Cursor) : FailsWith IsScanFault (blockIndicators c) := by
  simp only [blockIndicators]
  exact .ite (.error isScanFault_malformed) (.ok _)

theorem scanBlock_fails (folded : Bool) (margin : Nat) (c : Cursor) :
    FailsWith IsScanFault (scanBlock folded margin c) :=
  .bind (blockIndicators_fails _) fun _ _ => .bind (restOfLine_fails _) fun _ _ => .pure _

/-! ## Tokens -/

namespace Scanner

theorem dropStale_fails (s : Scanner) : FailsWith IsScanFault s.dropStale := by
  simp only [dropStale]
  exact .ite (.error isScanFault_malformed) (.ok _)

theorem dropKey_fails (s : Scanner) : FailsWith IsScanFault s.dropKey :=
  .ite (.error isScanFault_malformed) (.ok _)

theorem noteKey_fails (s : Scanner) : FailsWith IsScanFault s.noteKey :=
  .ite (.bind (dropKey_fails s) fun _ _ => .pure _) (.ok _)

theorem readValue_fails (s : Scanner) : FailsWith IsScanFault s.readValue := by
  simp only [readValue]
  split
  · exact .pure _
  · exact .ite (.error isScanFault_malformed) (.pure _)

theorem readKeyToken_fails {read : Cursor → Except Fault (Token × Cursor)}
    (hread : ∀ c, FailsWith IsScanFault (read c)) (s : Scanner) :
    FailsWith IsScanFault (s.readKeyToken read) :=
  .bind (noteKey_fails s) fun _ _ => .bind (hread _) fun _ _ => .pure _

theorem readToken_fails (s : Scanner) : FailsWith IsScanFault s.readToken := by
  have hmalformed {α : Type} : FailsWith IsScanFault (.error .malformed : Except Fault α) :=
    .error isScanFault_malformed
  refine .bind (dropStale_fails _) fun t _ => ?_
  dsimp only
  split
  · exact .bind (dropKey_fails _) fun _ _ => .pure _
  -- the cases stand in the order in which the tokens are tried
  refine .ite ?_ (.ite ?_ (.ite ?_ (.ite ?_ (.ite ?_ (.ite ?_ (.ite ?_ (.ite ?_ (.ite ?_ (.ite ?_
    (.ite ?_ (.ite ?_ (.ite ?_ (.ite ?_ (.ite ?_ (.ite ?_ (.ite ?_ (.ite ?_ ?_)))))))))))))))))
  · exact .bind (dropKey_fails _) fun _ _ => .bind (scanDirective_fails _) fun _ _ => .pure _
  · exact .bind (dropKey_fails _) fun _ _ => .pure _
  · exact .bind (dropKey_fails _) fun _ _ => .pure _
  · exact .bind (noteKey_fails _) fun _ _ => .pure _
  · exact .bind (noteKey_fails _) fun _ _ => .pure _
  · exact .bind (dropKey_fails _) fun _ _ => .pure _
  · exact .bind (dropKey_fails _) fun _ _ => .pure _
  · exact .bind (dropKey_fails _) fun _ _ => .pure _
  · exact .ite hmalformed (.bind (dropKey_fails _) fun _ _ => .pure _)
  · exact .ite hmalformed (.bind (dropKey_fails _) fun _ _ => .pure _)
  · exact readValue_fails _
  · exact readKeyToken_fails (fun c => .bind (scanName_fails c) fun _ _ => .pure _) _
  · exact readKeyToken_fails (fun c => .bind (scanName_fails c) fun _ _ => .pure _) _
  · exact readKeyToken_fails scanTag_fails _
  · exact .bind (dropKey_fails _) fun _ _ => .bind (scanBlock_fails _ _ _) fun _ _ => .pure _
  · exact .bind (dropKey_fails _) fun _ _ => .bind (scanBlock_fails _ _ _) fun _ _ => .pure _
  · exact readKeyToken_fails (scanQuoted_fails _) _
  · exact .bind (noteKey_fails _) fun _ _ => .pure _
  · exact hmalformed

end Scanner

/-! ## Texts -/

theorem tokensFrom_fault (steps : Nat) (s : Scanner) :
    ∀ f ∈ (tokensFrom steps s).fault, IsScanFault f := by
  induction steps generalizing s with
  | zero => simp [tokensFrom, isScanFault_malformed]
  | succ steps ih =>
      simp only [tokensFrom]
      split
      · rename_i f hf
        simpa using s.readToken_fails f hf
      · split
        · simp
        · split
          · rename_i f hf
            simpa using Scanner.dropStale_fails _ f hf
          · exact ih _

/-- The scanner stops at a fault of form, or at one of two others. -/
theorem tokensOf_fault {s : List Char} {f : Fault} (h : (tokensOf s).fault = some f) :
    IsScanFault f := by
  simp only [tokensOf] at h
  split at h
  · exact tokensFrom_fault _ _ f h
  · obtain rfl : Fault.malformed = f := by simpa using h
    exact isScanFault_malformed

end AlertRelay.Yaml
