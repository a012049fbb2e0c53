import AlertRelay.Proofs.Yaml.Scanning
import AlertRelay.Yaml.Node

/-!
# What parsing fails with

A parser adds no fault to that of its tokens but one of form, and the graph of a
document adds only that it may be too deep.
-/

namespace AlertRelay.Yaml

/-! ## Events -/

/-- The faults of parsing tokens that end with a given fault. -/
def IsParseFault (stop : Option Fault) (f : Fault) : Prop := f = .malformed ∨ stop = some f

namespace Configuration

/-- A step of parsing fails for its form or where the tokens end, and otherwise goes
on with tokens that end in the same way. -/
abbrev Parses (stop : Option Fault) (x : Except Fault (α × Configuration)) : Prop :=
  Ends (IsParseFault stop) (fun r => r.2.tokens.fault = stop) x

variable {stop : Option Fault} {c : Configuration}

theorem next_fails (hc : c.tokens.fault = stop) : FailsWith (IsParseFault stop) c.next := by
  simp only [next]
  split
  · exact .ok _
  · refine .error ?_
    rw [hc]
    cases stop with
    | none => exact .inl rfl
    | some f => exact .inr rfl

theorem parses_malformed : Parses stop (.error .malformed : Except Fault (α × Configuration)) :=
  .error (.inl rfl)

theorem parses_next {f : Token → Except Fault (α × Configuration)} (hc : c.tokens.fault = stop)
    (hf : ∀ t, Parses stop (f t)) : Parses stop (c.next >>= f) :=
  .bind (next_fails hc) fun t _ => hf t

theorem readDirectives_fails (hasVersion : Bool) (handles : List (String × String))
    (tokens : List Token) :
    FailsWith (IsParseFault stop) (readDirectives hasVersion handles tokens) := by
  fun_induction readDirectives hasVersion handles tokens with
  | case1 => exact .error (.inl rfl)
  | case2 _ _ _ _ _ ih => exact ih
  | case3 => exact .error (.inl rfl)
  | case4 _ _ _ _ _ _ ih => exact ih
  | case5 _ _ _ ih => exact ih
  | case6 => exact .ok _

theorem startDocument_parses (hc : c.tokens.fault = stop) : Parses stop c.startDocument := by
  refine .bind (readDirectives_fails _ _ _) fun r _ => parses_next hc fun t => ?_
  split
  · exact .pure hc
  · exact parses_malformed

theorem readProperties_fails (hc : c.tokens.fault = stop) :
    FailsWith (IsParseFault stop) c.readProperties := by
  refine .bind (next_fails hc) fun t _ => ?_
  split
  · refine .bind (next_fails hc) fun t _ => ?_
    split <;> exact .pure _
  · refine .bind (next_fails hc) fun t _ => ?_
    split <;> exact .pure _
  · exact .pure _

theorem readProperties_tokens {r : Option String × Option (Option String × String) × Configuration}
    (h : c.readProperties = .ok r) : r.2.2.tokens.fault = c.tokens.fault := by
  obtain ⟨t, -, h⟩ := bind_eq_ok.mp h
  split at h
  · obtain ⟨t, -, h⟩ := bind_eq_ok.mp h
    split at h <;> obtain rfl := Except.ok.inj h <;> rfl
  · obtain ⟨t, -, h⟩ := bind_eq_ok.mp h
    split at h <;> obtain rfl := Except.ok.inj h <;> rfl
  · obtain rfl := Except.ok.inj h
    rfl

theorem fullTag_fails (handles : List (String × String)) (tag : Option String × String) :
    FailsWith (IsParseFault stop) (fullTag handles tag) := by
  fun_cases fullTag handles tag with
  | case1 => exact .ok _
  | case2 => exact .ok _
  | case3 => exact .error (.inl rfl)

theorem readContent_parses (place : Place) (anchor tag : Option String)
    (hc : c.tokens.fault = stop) : Parses stop (c.readContent place anchor tag) := by
  refine parses_next hc fun t => ?_
  split
  · exact .ite (.pure hc) (.ite (.pure hc) parses_malformed)
  · exact .pure hc
  · exact .pure hc
  · exact .pure hc
  · exact .ite (.pure hc) (.ite (.pure hc) (.ite (.pure hc) parses_malformed))

theorem readNode_parses (place : Place) (hc : c.tokens.fault = stop) :
    Parses stop (c.readNode place) := by
  refine parses_next hc fun t => ?_
  split
  · exact .pure hc
  · refine .bind (readProperties_fails hc) fun r hr => ?_
    have htag (tag : Option (Option String × String)) (handles : List (String × String)) :
        FailsWith (IsParseFault stop) (tag.mapM (fullTag handles)) := by
      cases tag with
      | none => exact .pure _
      | some tag => exact .map (fullTag_fails handles tag)
    exact .bind (htag _ _) fun tag _ =>
      readContent_parses place _ _ ((readProperties_tokens hr).trans hc)

theorem readNodeUnless_parses (ends : Token → Bool) (place : Place) (after : Goal)
    (hc : c.tokens.fault = stop) : Parses stop (c.readNodeUnless ends place after) :=
  parses_next hc fun _ => .ite (.pure hc) (.pure hc)

/-- Every goal is reached, or the text is refused for its form or where its tokens end. -/
theorem step_parses (goal : Goal) (hc : c.tokens.fault = stop) : Parses stop (c.step goal) := by
  have hadvance {c : Configuration} (hc : c.tokens.fault = stop) :
      c.advance.tokens.fault = stop := hc
  cases goal with
  | firstDocument =>
      refine parses_next hc fun t => ?_
      split <;> exact .pure hc
  | document =>
      refine parses_next hc fun t => ?_
      split
      · exact .pure hc
      · exact .pure hc
      · exact startDocument_parses hc
  | documentContent =>
      refine parses_next hc fun t => ?_
      split
      all_goals first | exact .pure hc | exact readNode_parses _ hc
  | documentEnd =>
      refine parses_next hc fun t => .pure ?_
      split <;> exact hc
  | node place => exact readNode_parses place hc
  | blockEntry =>
      refine parses_next hc fun t => ?_
      split
      · exact readNodeUnless_parses _ _ _ (hadvance hc)
      · exact .pure hc
      · exact parses_malformed
  | looseEntry =>
      refine parses_next hc fun t => ?_
      split
      · exact readNodeUnless_parses _ _ _ (hadvance hc)
      · exact .pure hc
  | blockKey =>
      refine parses_next hc fun t => ?_
      split
      · exact readNodeUnless_parses _ _ _ (hadvance hc)
      · exact .pure hc
      · exact parses_malformed
  | blockValue =>
      refine parses_next hc fun t => ?_
      split
      · exact readNodeUnless_parses _ _ _ (hadvance hc)
      · exact .pure hc
  | flowEntry isFirst =>
      refine parses_next hc fun t => .ite (.pure hc) (.ite parses_malformed ?_)
      have hc' : (if isFirst then c else c.advance).tokens.fault = stop := by
        split <;> exact hc
      refine parses_next hc' fun t => ?_
      split <;> exact .pure hc'
  | pairKey => exact readNodeUnless_parses _ _ _ hc
  | pairValue =>
      refine parses_next hc fun t => ?_
      split
      · exact readNodeUnless_parses _ _ _ (hadvance hc)
      · exact .pure hc
  | pairEnd => exact parses_next hc fun t => .pure hc
  | flowKey isFirst =>
      refine parses_next hc fun t => .ite (.pure hc) (.ite parses_malformed ?_)
      have hc' : (if isFirst then c else c.advance).tokens.fault = stop := by
        split <;> exact hc
      refine parses_next hc' fun t => ?_
      split
      · exact readNodeUnless_parses _ _ _ (hadvance hc')
      · exact .pure hc'
      · exact .pure hc'
  | flowValue =>
      refine parses_next hc fun t => ?_
      split
      · exact readNodeUnless_parses _ _ _ (hadvance hc)
      · exact .pure hc
  | missingValue => exact parses_next hc fun t => .pure hc

end Configuration

theorem eventsFrom_fault {stop : Option Fault} (steps : Nat) (c : Configuration)
    (hc : c.tokens.fault = stop) : ∀ f ∈ (eventsFrom steps c).fault, IsParseFault stop f := by
  induction steps generalizing c with
  | zero =>
      intro f hf
      obtain rfl : Fault.malformed = f := by simpa [eventsFrom] using hf
      exact .inl rfl
  | succ steps ih =>
      simp only [eventsFrom]
      split
      · simp
      · rename_i goal goals hgoals
        have hstep : Configuration.Parses stop ({ c with goals := goals }.step goal) :=
          Configuration.step_parses goal hc
        split
        · rename_i f hf
          simpa using hstep.1 f hf
        · rename_i events c' hok
          exact ih c' (hstep.2 _ hok)

/-- Parsing stops at a fault of form, or where the tokens do. -/
theorem eventsOf_fault {tokens : TokenList} {f : Fault} (h : (eventsOf tokens).fault = some f) :
    IsParseFault tokens.fault f :=
  eventsFrom_fault _ _ rfl f h

/-! ## Graphs -/

/-- The faults of making a graph of events that end with a given fault. -/
def IsGraphFault (stop : Option Fault) (f : Fault) : Prop :=
  f = .malformed ∨ f = .tooDeep ∨ stop = some f

namespace Builder

variable {stop : Option Fault}

theorem addNode_fails (anchor : Option String) (node : Node) (b : Builder) :
    FailsWith (IsGraphFault stop) (b.addNode anchor node) := by
  simp only [addNode]
  split
  · exact .ok _
  · exact .ite (.error (.inl rfl)) (.ok _)

theorem openCollection_fails (anchor : Option String) (node : Node) (b : Builder) :
    FailsWith (IsGraphFault stop) (b.openCollection anchor node) :=
  .bind (addNode_fails anchor node b) fun _ _ => .ite (.error (.inr (.inl rfl))) (.pure _)

theorem add_fails (b : Builder) (e : Event) : FailsWith (IsGraphFault stop) (b.add e) := by
  cases e with
  | «alias» name =>
      simp only [add]
      split
      · exact .ok _
      · exact .error (.inl rfl)
  | scalar anchor tag isOpen text =>
      exact .bind (addNode_fails _ _ _) fun _ _ => .pure _
  | sequenceStart anchor tag => exact openCollection_fails _ _ _
  | mappingStart anchor tag => exact openCollection_fails _ _ _
  | sequenceEnd => exact .ok _
  | mappingEnd => exact .ok _
  | documentStart => exact .ok _
  | documentEnd => exact .ok _
  | streamEnd => exact .ok _

end Builder

theorem graphOf_fails (list : EventList) : FailsWith (IsGraphFault list.fault) (graphOf list) := by
  refine .bind (.foldlM (fun b e _ => Builder.add_fails b e) _) fun b _ => ?_
  dsimp only
  split
  · exact .pure _
  · exact .pure _
  · exact .error (.inl rfl)
  · refine .error ?_
    cases list.fault with
    | none => exact .inl rfl
    | some f => exact .inr (.inr rfl)

/-- A text has no graph for its form, for its depth, or because of an escape or a version
that is out of range. -/
theorem graphOf_eventsOf_fails (s : List Char) :
    FailsWith (fun f => f = .tooDeep ∨ IsScanFault f) (graphOf (eventsOf (tokensOf s))) := by
  refine (graphOf_fails _).mono fun f hf => ?_
  obtain rfl | rfl | hparse := hf
  · exact .inr isScanFault_malformed
  · exact .inl rfl
  · obtain rfl | hscan := eventsOf_fault hparse
    · exact .inr isScanFault_malformed
    · exact .inr (tokensOf_fault hscan)

end AlertRelay.Yaml
