import AlertRelay.Proofs.Yaml.Parsing
import AlertRelay.Yaml.Document

/-!
# What construction fails with

Merging mappings changes no scalar, so a value that cannot be made is that of a
scalar as it was written.
-/

namespace AlertRelay.Yaml

/-! ## Tables of nodes -/

theorem nodeAt_modify (nodes : Array Node) (n m : Nat) (f : Node → Node) :
    nodeAt (nodes.modify n f) m = nodeAt nodes m ∨
      n = m ∧ nodeAt (nodes.modify n f) m = f (nodeAt nodes m) := by
  simp only [nodeAt, Array.getElem?_modify]
  split
  · cases nodes[m]? with
    | none => exact .inl rfl
    | some node => exact .inr ⟨by assumption, rfl⟩
  · exact .inl rfl

/-- A node as merging may leave it: scalars and mappings stay what they are, and the key
for a default may become an ordinary text. -/
structure Node.SettlesTo (old new : Node) : Prop where
  tag : new.tag = old.tag ∨ old.tag = .default ∧ new.tag = .text
  scalar : ∀ text, new.content = .scalar text ↔ old.content = .scalar text
  mapping : (∃ entries, new.content = .mapping entries) ↔ ∃ entries, old.content = .mapping entries

namespace Node.SettlesTo

theorem refl (node : Node) : node.SettlesTo node :=
  ⟨.inl rfl, fun _ => Iff.rfl, Iff.rfl⟩

theorem trans {a b c : Node} (hab : a.SettlesTo b) (hbc : b.SettlesTo c) : a.SettlesTo c := by
  refine ⟨?_, fun text => (hbc.scalar text).trans (hab.scalar text), hbc.mapping.trans hab.mapping⟩
  rcases hab.tag with hab | ⟨hab, htext⟩ <;> rcases hbc.tag with hbc | ⟨hbc, htext'⟩
  · exact .inl (hbc.trans hab)
  · exact .inr ⟨hab ▸ hbc, htext'⟩
  · exact .inr ⟨hab, hbc.trans htext⟩
  · simp [htext] at hbc

end Node.SettlesTo

def Settles (old new : Array Node) : Prop := ∀ n, (nodeAt old n).SettlesTo (nodeAt new n)

namespace Settles

theorem refl (nodes : Array Node) : Settles nodes nodes := fun _ => .refl _

theorem trans {a b c : Array Node} (hab : Settles a b) (hbc : Settles b c) : Settles a c :=
  fun n => (hab n).trans (hbc n)

theorem modify {nodes : Array Node} {n : Nat} {f : Node → Node}
    (h : (nodeAt nodes n).SettlesTo (f (nodeAt nodes n))) : Settles nodes (nodes.modify n f) := by
  intro m
  rcases nodeAt_modify nodes n m f with hsame | ⟨rfl, hmodified⟩
  · rw [hsame]
    exact .refl _
  · rwa [hmodified]

end Settles

theorem entriesAt?_eq_some {nodes : Array Node} {n : Nat} {entries : List (Nat × Nat)} :
    entriesAt? nodes n = some entries ↔ (nodeAt nodes n).content = .mapping entries := by
  simp only [entriesAt?]
  split <;> simp_all

theorem settles_setEntries {nodes : Array Node} {n : Nat} {entries : List (Nat × Nat)}
    (hn : ∃ own, (nodeAt nodes n).content = .mapping own) :
    Settles nodes (setEntries n entries nodes) := by
  obtain ⟨own, hown⟩ := hn
  exact .modify ⟨.inl rfl, by simp [hown], by simp [hown]⟩

theorem settles_settleDefaults (entries : List (Nat × Nat)) (nodes : Array Node) :
    Settles nodes (settleDefaults entries nodes) := by
  induction entries generalizing nodes with
  | nil => exact .refl nodes
  | cons entry entries ih =>
      refine .trans (.modify ?_) (ih _)
      split
      · exact ⟨.inr ⟨by assumption, rfl⟩, fun _ => Iff.rfl, Iff.rfl⟩
      · exact .refl _

/-! ## Merging -/

/-- Merging fails for the form of the text only, and leaves the scalars alone. -/
abbrev Merges (nodes : Array Node) (x : Except Fault (Array Node)) : Prop :=
  Ends (· = .malformed) (Settles nodes) x

abbrev MergesAll (nodes : Array Node)
    (x : Except Fault (Array Node × List (Nat × Nat))) : Prop :=
  Ends (· = .malformed) (fun r => Settles nodes r.1) x

variable {steps : Nat}

theorem flattenFrom_succ_merges
    (hone : ∀ n merged nodes, Merges nodes (flattenFrom steps n merged nodes))
    (hall : ∀ items nodes, MergesAll nodes (flattenAll steps items nodes))
    (n : Nat) (merged : List (Nat × Nat)) (nodes : Array Node) :
    Merges nodes (flattenFrom (steps + 1) n merged nodes) := by
  simp only [flattenFrom]
  split
  · exact .error rfl
  rename_i entries hentries
  have hmapping : ∃ own, (nodeAt nodes n).content = .mapping own :=
    ⟨entries, entriesAt?_eq_some.mp hentries⟩
  split
  · have hdefaults := settles_settleDefaults entries nodes
    exact .ok (hdefaults.trans (settles_setEntries ((hdefaults n).mapping.mpr hmapping)))
  rename_i before value after _
  -- the mapping without the merge key, as it is when its value is looked at
  have hshort : Settles nodes (settleDefaults before (setEntries n (before ++ after) nodes)) :=
    (settles_setEntries hmapping).trans (settles_settleDefaults before _)
  split
  · exact .andThen (hone _ _ _) fun nodes₁ h₁ =>
      (hone _ _ _).mono fun nodes₂ h₂ => (hshort.trans h₁).trans h₂
  · exact .andThen (hall _ _) fun r h₁ =>
      (hone _ _ _).mono fun nodes₂ h₂ => (hshort.trans h₁).trans h₂
  · exact .error rfl

theorem flattenAll_succ_merges
    (hone : ∀ n merged nodes, Merges nodes (flattenFrom steps n merged nodes))
    (hall : ∀ items nodes, MergesAll nodes (flattenAll steps items nodes))
    (items : List Nat) (nodes : Array Node) :
    MergesAll nodes (flattenAll (steps + 1) items nodes) := by
  cases items with
  | nil => exact .ok (.refl nodes)
  | cons n rest =>
      exact .andThen (hone n [] nodes) fun nodes₁ h₁ =>
        .andThen (hall rest nodes₁) fun r h₂ => .pure (h₁.trans h₂)

theorem flatten_merges_of_steps (steps : Nat) :
    (∀ n merged nodes, Merges nodes (flattenFrom steps n merged nodes)) ∧
      ∀ items nodes, MergesAll nodes (flattenAll steps items nodes) := by
  induction steps with
  | zero => exact ⟨fun _ _ _ => .error rfl, fun _ _ => .error rfl⟩
  | succ steps ih =>
      exact ⟨flattenFrom_succ_merges ih.1 ih.2, flattenAll_succ_merges ih.1 ih.2⟩

theorem flatten_merges (n : Nat) (nodes : Array Node) : Merges nodes (flatten n nodes) :=
  (flatten_merges_of_steps _).1 n [] nodes

/-! ## Scalars -/

/-- The faults of reading a scalar under a tag. -/
def IsScalarFault (tag : Tag) (f : Fault) : Prop :=
  match tag with
  | .bool => f = .unknownWord
  | .int => f = .emptyNumber ∨ f = .noSuchValue
  | .float => f = .emptyNumber ∨ f = .noSuchValue ∨ f = .tooLarge
  | .timestamp => f = .notTimestamp ∨ f = .noSuchValue
  | .null | .text => False
  | _ => f = .malformed

theorem signedPart_fails (s : List Char) : FailsWith (· = .emptyNumber) (signedPart s) := by
  simp only [signedPart]
  split
  · exact .error rfl
  · exact .ok _

theorem integerIn_fails (r : Number.Radix) (s : List Char) :
    FailsWith (· = .noSuchValue) (integerIn r s) := by
  simp only [integerIn]
  split
  · exact .ok _
  · exact .error rfl

theorem numeralIn_fails (s : List Char) : FailsWith (· = .noSuchValue) (numeralIn s) := by
  simp only [numeralIn]
  split
  · exact .ok _
  · exact .error rfl

theorem magnitudeOf_fails (s : List Char) :
    FailsWith (IsScalarFault .int) (magnitudeOf s) := by
  have hone (r : Number.Radix) (s : List Char) :
      FailsWith (IsScalarFault .int) (integerIn r s) :=
    (integerIn_fails r s).mono fun _ h => .inr h
  fun_cases magnitudeOf s with
  | case1 => exact .error (.inl rfl)
  | case2 => exact .ok _
  | case3 => exact hone _ _
  | case4 => exact hone _ _
  | case5 => exact hone _ _
  | case6 s hcolon =>
      rw [if_pos hcolon]
      exact .bind (.mapM fun part _ => hone _ part) fun _ _ => .pure _
  | case7 s hcolon =>
      rw [if_neg hcolon]
      exact hone _ _

theorem intOf_fails (s : List Char) : FailsWith (IsScalarFault .int) (intOf s) :=
  .bind ((signedPart_fails s).mono fun _ h => .inl h) fun _ _ =>
    .bind (magnitudeOf_fails _) fun _ _ => .pure _

theorem floatOf_fails (place : Nat) (s : List Char) :
    FailsWith (IsScalarFault .float) (floatOf place s) := by
  have hone (s : List Char) : FailsWith (IsScalarFault .float) (numeralIn s) :=
    (numeralIn_fails s).mono fun _ h => .inr (.inl h)
  refine .bind ((signedPart_fails s).mono fun _ h => .inl h) fun part _ => .ite (.pure _) ?_
  -- every branch gives a number, and then only says whether it is one
  refine .ite (.bind (.ok _) fun _ _ => ?_) (.ite (.bind (.mapM fun s _ => hone s) fun parts _ =>
    .ite (.bind (.error (.inr (.inr rfl))) fun _ _ => ?_) (.bind (.ok _) fun _ _ => ?_))
      (.bind (hone _) fun _ _ => ?_))
  all_goals
    dsimp only
    split
    · exact .pure _
    · exact .pure _

theorem timestampOf_fails (s : List Char) :
    FailsWith (IsScalarFault .timestamp) (timestampOf s) := by
  simp only [timestampOf]
  split
  · exact .error (.inl rfl)
  · refine .ite (.ite (.ok _) (.error (.inr rfl))) ?_
    split
    · exact .error (.inl rfl)
    · exact .ite (.ok _) (.error (.inr rfl))

/-- What the text of a scalar can fail with is known from its tag. -/
theorem valueOf_fails (place : Nat) (tag : Tag) (text : Text.Spelled) :
    FailsWith (IsScalarFault tag) (valueOf place tag text) := by
  cases tag with
  | null => exact .ok _
  | text => exact .ok _
  | bool => exact .ite (.ok _) (.ite (.ok _) (.error rfl))
  | int => exact intOf_fails _
  | float => exact floatOf_fails _ _
  | timestamp => exact timestampOf_fails _
  | binary =>
      refine .ite ?_ (.error rfl)
      split
      · exact .ok _
      · exact .error rfl
  | sequence => exact .error rfl
  | mapping => exact .error rfl
  | set => exact .error rfl
  | pairs => exact .error rfl
  | merge => exact .error rfl
  | default => exact .error rfl
  | unknown => exact .error rfl

/-- A node of the graph has a text that its tag cannot be given, and this is the fault.
A mapping stands for the text of its default, except that it is never a timestamp. -/
inductive HasNoValue (nodes : Array Node) : Fault → Prop where
  | text {n m : Nat} {text : Text.Spelled} {f : Fault}
      (hm : (nodeAt nodes m).content = .scalar text)
      (hn : m = n ∨ ∃ entries, (nodeAt nodes n).content = .mapping entries)
      (hf : valueOf n (nodeAt nodes n).tag text = .error f)
      (hkind : IsScalarFault (nodeAt nodes n).tag f) : HasNoValue nodes f
  | moment {n : Nat} (htag : (nodeAt nodes n).tag = .timestamp)
      (hn : ∃ entries, (nodeAt nodes n).content = .mapping entries) : HasNoValue nodes .notScalar

/-- A scalar has no value after merging only if it had none before. -/
theorem HasNoValue.of_settles {old new : Array Node} {f : Fault} (h : Settles old new)
    (hf : HasNoValue new f) : HasNoValue old f := by
  cases hf with
  | @text n m text f hm hn hf hkind =>
      have hn' : m = n ∨ ∃ entries, (nodeAt old n).content = .mapping entries :=
        hn.imp_right (h n).mapping.mp
      rcases (h n).tag with htag | ⟨-, htag⟩
      · exact .text ((h m).scalar text |>.mp hm) hn' (htag ▸ hf) (htag ▸ hkind)
      · simp [htag, valueOf] at hf
  | @moment n htag hn =>
      rcases (h n).tag with hsame | ⟨-, htext⟩
      · exact .moment (hsame ▸ htag) ((h n).mapping.mp hn)
      · simp [htext] at htag

theorem scalarText_ends (nodes : Array Node) (steps n : Nat) :
    Ends (· = .malformed)
      (fun text => ∃ m, (nodeAt nodes m).content = .scalar text ∧
        (m = n ∨ ∃ entries, (nodeAt nodes n).content = .mapping entries))
      (scalarText nodes steps n) := by
  induction steps generalizing n with
  | zero => exact .error rfl
  | succ steps ih =>
      simp only [scalarText]
      split
      · rename_i text htext
        exact .ok ⟨n, htext, .inl rfl⟩
      · exact .error rfl
      · rename_i entries hentries
        split
        · rename_i value _
          refine (ih value).mono fun text htext => ?_
          obtain ⟨m, hm, -⟩ := htext
          exact ⟨m, hm, .inr ⟨entries, hentries⟩⟩
        · exact .error rfl

def IsConstructionFault (nodes : Array Node) (f : Fault) : Prop :=
  f = .malformed ∨ HasNoValue nodes f

theorem scalarAt_fails (nodes : Array Node) (n : Nat) :
    FailsWith (IsConstructionFault nodes) (scalarAt nodes n) := by
  have htext := scalarText_ends nodes (nodes.size + 1) n
  refine .bind (htext.1.mono fun _ h => .inl h) fun text hok => ?_
  obtain ⟨m, hm, hn⟩ := htext.2 text hok
  split
  · rename_i htag hcontent
    exact .error (.inr (.moment htag ⟨_, hcontent⟩))
  · exact fun f hf => .inr (.text hm hn hf (valueOf_fails n _ text f hf))

/-! ## Containers -/

namespace Construction

/-- A step of construction fails for the form of the text or at a scalar of the graph, and
otherwise leaves the scalars alone. -/
abbrev Continues (nodes : Array Node) (x : Except Fault (α × Construction)) : Prop :=
  Ends (IsConstructionFault nodes) (fun r => Settles nodes r.2.nodes) x

variable {nodes : Array Node} {c : Construction}

theorem place_continues (n : Nat) (hc : Settles nodes c.nodes) : Continues nodes (c.place n) := by
  have hscalar : FailsWith (IsConstructionFault nodes) (scalarAt c.nodes n) :=
    (scalarAt_fails c.nodes n).mono fun f hf => hf.imp_right (.of_settles hc)
  simp only [place]
  split
  · exact .ok hc
  · split
    all_goals first
      | exact .ok hc
      | exact .error (.inl rfl)
      | exact .bind hscalar fun _ _ => .pure hc

theorem placeItems_continues (items : List Nat) (hc : Settles nodes c.nodes) :
    Continues nodes (placeItems items c) := by
  induction items generalizing c with
  | nil => exact .ok hc
  | cons n rest ih =>
      exact .andThen (place_continues n hc) fun _ hc =>
        .andThen (ih hc) fun _ hc => .pure hc

theorem placeEntries_continues (placed : List (Value × Item)) (entries : List (Nat × Nat))
    (hc : Settles nodes c.nodes) : Continues nodes (placeEntries placed entries c) := by
  induction entries generalizing placed c with
  | nil => exact .ok hc
  | cons entry rest ih =>
      refine .andThen (place_continues entry.1 hc) fun r hc => ?_
      split
      · exact .error (.inl rfl)
      · exact .andThen (place_continues entry.2 hc) fun r hc => ih _ hc

theorem placePairs_continues (items : List Nat) (hc : Settles nodes c.nodes) :
    Continues nodes (placePairs items c) := by
  induction items generalizing c with
  | nil => exact .ok hc
  | cons n rest ih =>
      simp only [placePairs]
      split
      · exact .andThen (place_continues _ hc) fun _ hc =>
          .andThen (place_continues _ hc) fun _ hc =>
            .andThen (ih hc) fun _ hc => .pure hc
      · exact .error (.inl rfl)

theorem placeMapping_continues (n : Nat) (hc : Settles nodes c.nodes) :
    Continues nodes (placeMapping n c) := by
  have hflat := flatten_merges n c.nodes
  refine .bind (hflat.1.mono fun _ h => .inl h) fun flat hok => ?_
  exact placeEntries_continues _ _ (hc.trans (hflat.2 flat hok))

theorem filling_continues (n : Nat) (hc : Settles nodes c.nodes) :
    Continues nodes (c.filling n) := by
  simp only [filling]
  split
  · exact .andThen (placeItems_continues _ hc) fun _ hc => .pure hc
  · exact .andThen (placePairs_continues _ hc) fun _ hc => .pure hc
  · exact .andThen (placeMapping_continues n hc) fun _ hc => .pure hc
  · exact .andThen (placeMapping_continues n hc) fun _ hc => .pure hc
  · exact .error (.inl rfl)

theorem fillAll_fails (steps : Nat) (hc : Settles nodes c.nodes) :
    FailsWith (IsConstructionFault nodes) (fillAll steps c) := by
  induction steps generalizing c with
  | zero => exact .ok _
  | succ steps ih =>
      simp only [fillAll]
      split
      · exact .ok _
      · rename_i n rest _
        have hfilling := filling_continues (c := { c with waiting := rest }) n hc
        exact .bind hfilling.1 fun r hok => ih (hfilling.2 r hok)

end Construction

/-- A graph has no value for its form, or because a scalar of it has none. -/
theorem construct_fails (g : Graph) : FailsWith (IsConstructionFault g.nodes) (construct g) := by
  have hroot := Construction.place_continues (c := ⟨g.nodes, .replicate g.nodes.size none, [], []⟩)
    g.root (.refl g.nodes)
  refine .bind hroot.1 fun r hok => ?_
  exact .bind (Construction.fillAll_fails _ (hroot.2 r hok)) fun _ _ => .pure _

/-! ## Texts -/

/-- What makes a text that is no document of the right form fail to be read: an escape or
a version out of range, collections that stand too deep, or a scalar without a value. -/
inductive HasFault (s : List Char) : Fault → Prop where
  | escape {f : Fault} (hf : f = .noSuchValue ∨ f = .tooLarge)
      (hgraph : graphOf (eventsOf (tokensOf s)) = .error f) : HasFault s f
  | depth (hgraph : graphOf (eventsOf (tokensOf s)) = .error .tooDeep) : HasFault s .tooDeep
  | scalar {g : Graph} {f : Fault} (hgraph : graphOf (eventsOf (tokensOf s)) = .ok (some g))
      (hf : HasNoValue g.nodes f) : HasFault s f

/-- A text that is refused is refused for its form or for one of the other causes. -/
theorem read_fails (s : List Char) :
    FailsWith (fun f => f = .malformed ∨ HasFault s f) (read s) := by
  intro f hf
  rcases bind_eq_error.mp hf with hgraph | ⟨graph, hgraph, hf⟩
  · obtain rfl | rfl | hscan := graphOf_eventsOf_fails s f hgraph
    · exact .inr (.depth hgraph)
    · exact .inl rfl
    · exact .inr (.escape hscan hgraph)
  · cases graph with
    | none => simp [pure, Except.pure] at hf
    | some g => exact (construct_fails g f hf).imp_right (.scalar hgraph)

end AlertRelay.Yaml
