import AlertRelay.Log.Journal
import AlertRelay.Proofs.Json.Fields
import AlertRelay.Proofs.Json.Lines

/-!
# What a journal holds

In the JSON form a call that reaches the threshold adds one line, and who reads the line has all
that was bound and given, and what was being handled if the call reports it.  A call below the
threshold adds nothing, and neither does one with an integer that is too long: it is refused.
-/

namespace AlertRelay.Json

theorem areFiniteFields_iff {fields : List (Text.Spelled × Json)} :
    AreFiniteFields fields ↔ ∀ field ∈ fields, field.2.IsFinite := by
  induction fields with
  | nil => simp [AreFiniteFields]
  | cons field fields ih => simp [AreFiniteFields, ih]

end AlertRelay.Json

namespace AlertRelay.Log

open AlertRelay.Json (IsMerge IsAsciiLine)
open AlertRelay.Text

/-! ## Thresholds -/

/-- Whether two names have the same capitals. -/
def SameLetters (s t : Spelled) : Prop := s.points.map capital = t.points.map capital

instance (s t : Spelled) : Decidable (SameLetters s t) :=
  inferInstanceAs (Decidable (s.points.map capital = t.points.map capital))

/-- The threshold of the level with the same capitals, or that of `info` for a name that is not
known. -/
def IsThreshold (level : Spelled) (threshold : Nat) : Prop :=
  (∃ named ∈ namedThresholds, SameLetters named.1 level ∧ threshold = named.2) ∨
    (∀ named ∈ namedThresholds, ¬SameLetters named.1 level) ∧ threshold = Level.info.severity

theorem sameLetters_iff {named : Spelled × Nat} (h : named ∈ namedThresholds) (level : Spelled) :
    SameLetters named.1 level ↔ named.1 = ⟨level.points.map capital⟩ := by
  have hcapitals : ∀ named ∈ namedThresholds, named.1.points.map capital = named.1.points := by
    decide
  rw [SameLetters, hcapitals named h, Spelled.ext_iff]

theorem isThreshold_thresholdNamed (level : Spelled) :
    IsThreshold level (thresholdNamed level) := by
  rw [thresholdNamed]
  cases hlookup : namedThresholds.lookup ⟨level.points.map capital⟩ with
  | none =>
      rw [List.lookup_eq_none_iff] at hlookup
      refine .inr ⟨fun named hnamed hsame => ?_, rfl⟩
      have := hlookup named hnamed
      rw [← (sameLetters_iff hnamed level).mp hsame] at this
      simp at this
  | some threshold =>
      have hmem := Json.mem_of_lookup hlookup
      exact .inl ⟨_, hmem, (sameLetters_iff hmem level).mpr rfl, rfl⟩

theorem IsThreshold.unique {level : Spelled} {s t : Nat} (hs : IsThreshold level s)
    (ht : IsThreshold level t) : s = t := by
  have hnames : ∀ a ∈ namedThresholds, ∀ b ∈ namedThresholds, SameLetters a.1 b.1 → a.2 = b.2 := by
    decide
  rcases hs with ⟨a, ha, hsame, rfl⟩ | ⟨hnone, rfl⟩ <;>
    rcases ht with ⟨b, hb, hsame', rfl⟩ | ⟨hnone', rfl⟩
  · exact hnames a ha b hb (hsame.trans hsame'.symm)
  · exact absurd hsame (hnone' a ha)
  · exact absurd hsame' (hnone b hb)
  · rfl

/-! ## Plain calls -/

/-- The names that no field of a call has. -/
def takenNames : List Spelled := ["self", "event", "method_name", "exc_info", "stack_info"]

/-- The names that no field of a logger has. -/
def takenByLogger : List Spelled :=
  ["component", "logger", "processors", "wrapper_class", "context_class",
    "cache_logger_on_first_use", "logger_factory_args"]

namespace Call

/-- Whether no field has a name that is taken. -/
structure HasPlainNames (c : Call) : Prop where
  bound : ∀ field ∈ c.bound, field.1 ∉ takenNames ∧ field.1 ∉ takenByLogger
  given : ∀ field ∈ c.given, field.1 ∉ takenNames

/-- Whether no name is taken and all floats are numbers. -/
structure IsPlain (c : Call) : Prop extends c.HasPlainNames where
  values : ∀ field ∈ c.bound ++ c.given, field.2.IsFinite
  raised : ∀ r, c.raised = some r → r.record.IsFinite

/-- The event of a call that reaches the threshold. -/
def event (c : Call) : Event where
  component := c.component
  level := c.method.level
  name := c.name
  fields := Json.setFields [] c.bound ++
    (if c.method = .exception then [(traceField, .bool true)] else []) ++ c.given

/-- What is being handled, if the call reports it. -/
def reported (c : Call) : Option Raised := if c.method = .exception then c.raised else none

/-- All that a call has to tell, a later field being the one that counts: the component, what
was bound, what was given, then name, level and time, and what the call reports. -/
def sources (stamp : String) (c : Call) : List (Spelled × Json) :=
  [(.whole "component", .text c.component)] ++ c.bound ++
    (c.given ++ [(.whole "event", .text c.name), (.whole "level", .text c.method.level.name),
        (.whole "ts", .text stamp)] ++
      c.reported.toList.map fun r => (raisedField, r.record))

variable {c : Call}

theorem HasPlainNames.merged (h : c.HasPlainNames) :
    ∀ field ∈ Json.setFields [] c.bound, field.1 ∉ takenNames ∧ field.1 ∉ takenByLogger := by
  intro field hfield
  have hkey := ((Json.isMerge_setFields c.bound).mem_keys field.1).mp
    (List.mem_map_of_mem hfield)
  obtain ⟨source, hsource, hname⟩ := List.mem_map.mp hkey
  rw [← hname]
  exact h.bound source hsource

theorem require_eq_ok {ok : Spelled → Json → Bool} {fields : List (Spelled × Json)}
    (h : ∀ field ∈ fields, ok field.1 field.2 = true) : require ok fields = .ok () := by
  rw [require]
  split
  · rfl
  · rename_i key v hfound
    have hok := h _ (List.mem_of_find?_eq_some hfound)
    have hfault := List.find?_some hfound
    simp [hok] at hfault

section Names

variable {key : Spelled}

theorem canBind_of_plain (h : key ∉ takenByLogger) (v : Json) : canBind key v = true := by
  have hnames : loggerNames ⊆ takenByLogger := by decide
  have hparts : blankParts ⊆ takenByLogger := by decide
  have hfree : key ∉ loggerNames ∧ key ∉ blankParts :=
    ⟨fun hkey => h (hnames hkey), fun hkey => h (hparts hkey)⟩
  simp [canBind, hfree]

theorem canWriteWith_of_plain (h : key ∉ takenByLogger) (v : Json) :
    canWriteWith key v = true := by
  have hne : key ≠ writingPart := by
    rintro rfl
    exact h (by decide)
  cases v <;> simp [canWriteWith, hne]

theorem not_mem_parts (h : key ∉ takenByLogger) : key ∉ parts := by
  have hparts : parts ⊆ takenByLogger := by decide
  exact fun hkey => h (hparts hkey)

theorem not_mem_callNames (h : key ∉ takenNames) : key ∉ callNames := by
  have hnames : callNames ⊆ takenNames := by decide
  exact fun hkey => h (hnames hkey)

theorem ne_levelName (h : key ∉ takenNames) : key ≠ levelName := by
  rintro rfl
  exact h (by decide)

theorem not_mem_traceFields (h : key ∉ takenNames) : key ∉ traceFields := by
  have hnames : traceFields ⊆ takenNames := by decide
  exact fun hkey => h (hnames hkey)

end Names

theorem event?_of_plainNames (h : c.HasPlainNames) (threshold : Nat) :
    c.event? threshold =
      .ok (if threshold ≤ c.method.level.severity then some c.event else none) := by
  have hbind : require canBind (Json.setFields [] c.bound) = .ok () :=
    require_eq_ok fun field hfield => canBind_of_plain (h.merged field hfield).2 field.2
  have hgiven : require (fun key _ => !callNames.contains key) c.given = .ok () :=
    require_eq_ok fun field hfield => by simpa using not_mem_callNames (h.given field hfield)
  have hlevel : require (fun key _ => key != levelName) c.given = .ok () :=
    require_eq_ok fun field hfield => by simpa using ne_levelName (h.given field hfield)
  have hwrite : require canWriteWith (Json.setFields [] c.bound) = .ok () :=
    require_eq_ok fun field hfield => canWriteWith_of_plain (h.merged field hfield).2 field.2
  have hparts : ∀ field ∈ Json.setFields [] c.bound, field.1 ∉ parts :=
    fun field hfield => not_mem_parts (h.merged field hfield).2
  simp only [event?, hbind, hgiven, hlevel, hwrite, Json.filter_of_keys hparts]
  split <;> rfl

/-! ## Entries -/

variable {stamp : String} {threshold : Nat}

/-- All that is told of a call but for what it reports. -/
theorem isMerge_told (h : c.HasPlainNames) (stamp : String) :
    IsMerge ([(.whole "component", .text c.component)] ++ c.bound ++
      (c.given ++ c.event.heading stamp)) (c.event.told stamp) := by
  have hbound : ∀ field ∈ Json.setFields [] c.bound, field.1 ∉ traceFields :=
    fun field hfield => not_mem_traceFields (h.merged field hfield).1
  have hgiven : ∀ field ∈ c.given, field.1 ∉ traceFields :=
    fun field hfield => not_mem_traceFields (h.given field hfield)
  have htrace : traceField ∈ traceFields := by decide
  have htold : c.event.told stamp = Json.setFields [] ([(.whole "component", .text c.component)] ++
      Json.setFields [] c.bound ++ (c.given ++ c.event.heading stamp)) := by
    have hstart (updates : List (Spelled × Json)) :
        Json.setFields [] ((.whole "component", .text c.component) :: updates) =
          Json.setFields [(.whole "component", .text c.component)] updates := rfl
    simp only [Event.told, event, List.filter_append, Json.filter_of_keys hbound,
      Json.filter_of_keys hgiven]
    split <;> simp [htrace, hstart]
  rw [htold]
  exact (Json.isMerge_setFields c.bound).of_merged (Json.isMerge_setFields _)

theorem traced?_event (h : c.HasPlainNames) : c.event.traced? c.raised = c.reported := by
  have hfree {fields : List (Spelled × Json)} (hfields : ∀ field ∈ fields, field.1 ∉ takenNames) :
      traceField ∉ fields.map Prod.fst := by
    intro hmem
    obtain ⟨field, hfield, hname⟩ := List.mem_map.mp hmem
    exact hfields field hfield (hname ▸ by decide)
  have hbound := hfree fun field hfield => (h.bound field hfield).1
  have hgiven := hfree h.given
  -- the last source under the name is the one that the method itself adds
  have hlookup : (Json.setFields [] c.event.fields).lookup traceField =
      if c.method = .exception then some (.bool true) else none := by
    rw [(Json.isMerge_setFields c.event.fields).values, event]
    simp only [List.reverse_append, List.lookup_append]
    have hnone : (Json.setFields [] c.bound).reverse.lookup traceField = none := by
      apply Json.lookup_of_not_mem
      rw [List.map_reverse, List.mem_reverse, (Json.isMerge_setFields c.bound).mem_keys]
      exact hbound
    have hnone' : c.given.reverse.lookup traceField = none := by
      apply Json.lookup_of_not_mem
      rw [List.map_reverse, List.mem_reverse]
      exact hgiven
    rw [hnone, hnone']
    split <;> simp
  by_cases hmethod : c.method = .exception
  · simp [Event.traced?, Event.asksTrace, hlookup, reported, hmethod, Value.ofJson, Value.isBlank]
  · simp [Event.traced?, Event.asksTrace, hlookup, reported, hmethod]

/-- What is written about a call is what it has to tell. -/
theorem isMerge_entry (h : c.HasPlainNames) (stamp : String) :
    IsMerge (c.sources stamp) (c.event.entry stamp c.raised) := by
  have htold := isMerge_told h stamp
  rw [Event.entry, traced?_event h]
  cases hreported : c.reported with
  | none => simpa [sources, hreported, Event.heading, event] using htold
  | some r =>
      simpa [sources, hreported, Event.heading, event] using htold.setField raisedField r.record

theorem isFinite_entry (h : c.IsPlain) {field : Spelled × Json}
    (hfield : field ∈ c.event.entry stamp c.raised) : field.2.IsFinite := by
  have hsource := (isMerge_entry h.toHasPlainNames stamp).mem_sources hfield
  simp only [sources, List.mem_append, List.mem_cons, List.not_mem_nil,
    or_false, List.mem_map, Option.mem_toList] at hsource
  rcases hsource with (rfl | hbound) | (hgiven | (rfl | rfl | rfl)) | ⟨r, hr, rfl⟩
  · exact trivial
  · exact h.values field (List.mem_append_left _ hbound)
  · exact h.values field (List.mem_append_right _ hgiven)
  · exact trivial
  · exact trivial
  · exact trivial
  · simp only [reported] at hr
    split at hr
    · exact h.raised r hr
    · simp at hr

/-! ## Lines -/

/-- What a call adds to a log of the JSON form, if it is not refused: a line that is read as
what the call has to tell, with halves that follow one another joined, or nothing. -/
inductive Adds (threshold : Nat) (stamp : String) (c : Call) : Except CallFault Spelled → Prop
  | line {line : List Char} {fields : List (Spelled × Json)}
      (hreaches : threshold ≤ c.method.level.severity) (hfields : IsMerge (c.sources stamp) fields)
      (hshort : ∀ field ∈ fields, field.2.isWritable = true) (hline : IsAsciiLine line)
      (hread : Json.read line = some (Json.object fields).joined) :
      Adds threshold stamp c (.ok (String.ofList (line ++ ['\n'])))
  /-- an integer in a field is too long to be written -/
  | refused {fields : List (Spelled × Json)} {field : Spelled × Json}
      (hreaches : threshold ≤ c.method.level.severity) (hfields : IsMerge (c.sources stamp) fields)
      (hfield : field ∈ fields) (hlong : field.2.isWritable = false) :
      Adds threshold stamp c (.error (.unwritable field.1))
  | dropped (hlow : c.method.level.severity < threshold) : Adds threshold stamp c (.ok "")

theorem Adds.eq_refused {result : Except CallFault Spelled} (h : c.Adds threshold stamp result)
    (hreaches : threshold ≤ c.method.level.severity) (key : Spelled)
    (hlong : ∃ field ∈ Json.setFields [] (c.sources stamp), field.2.isWritable = false)
    (hkey : ∀ field ∈ c.sources stamp, field.2.isWritable = false → field.1 = key) :
    result = .error (.unwritable key) := by
  cases h with
  | line _ hfields hshort =>
      obtain ⟨field, hfield, hfault⟩ := hlong
      rw [← hfields.unique (Json.isMerge_setFields _)] at hfield
      have := hshort field hfield
      simp [hfault] at this
  | refused _ hfields hfield hlong => rw [hkey _ (hfields.mem_sources hfield) hlong]
  | dropped hlow => exact absurd hreaches (Nat.not_le_of_lt hlow)

theorem Adds.eq_empty {result : Except CallFault Spelled} (h : c.Adds threshold stamp result)
    (hlow : c.method.level.severity < threshold) : result = .ok "" := by
  cases h with
  | line hreaches => exact absurd hreaches (Nat.not_le_of_lt hlow)
  | refused hreaches => exact absurd hreaches (Nat.not_le_of_lt hlow)
  | dropped => rfl

theorem Adds.exists_line {result : Except CallFault Spelled} (h : c.Adds threshold stamp result)
    (hreaches : threshold ≤ c.method.level.severity)
    (hshort : ∀ field ∈ c.sources stamp, field.2.isWritable = true) :
    ∃ line, result = .ok (String.ofList (line ++ ['\n'])) ∧ IsAsciiLine line ∧
      Json.read line = some (Json.object (Json.setFields [] (c.sources stamp))).joined := by
  cases h with
  | line _ hfields _ hline hread =>
      rw [hfields.unique (Json.isMerge_setFields _)] at hread
      exact ⟨_, rfl, hline, hread⟩
  | refused _ hfields hfield hlong =>
      have := hshort _ (hfields.mem_sources hfield)
      simp [hlong] at this
  | dropped hlow => exact absurd hreaches (Nat.not_le_of_lt hlow)

theorem render_of_plain (h : c.IsPlain) (threshold : Nat) (stamp : String) :
    c.Adds threshold stamp (c.render .json threshold stamp) := by
  have hevent := event?_of_plainNames h.toHasPlainNames threshold
  by_cases hreaches : threshold ≤ c.method.level.severity
  · rw [if_pos hreaches] at hevent
    have hentry := isMerge_entry h.toHasPlainNames stamp
    simp only [render, hevent, bind, Except.bind, checkWritable, checkBelow, isShown,
      beq_self_eq_true, Bool.true_or, Bool.true_and]
    split
    · rename_i hfault
      split at hfault
      · simp at hfault
      · rename_i key v hfound
        obtain rfl := Except.error.inj hfault
        have hlong := List.find?_some hfound
        have hmem : (key, v) ∈ c.event.entry stamp c.raised := List.mem_of_find?_eq_some hfound
        exact .refused hreaches hentry hmem (by simpa using hlong)
    · rename_i hnone
      split at hnone
      · rename_i hshort
        have hfinite : (Json.object (c.event.entry stamp c.raised)).IsFinite :=
          Json.areFiniteFields_iff.mpr fun field hfield => isFinite_entry h hfield
        refine .line hreaches hentry (fun field hfield => ?_) (Json.isAsciiLine_render hfinite)
          (Json.read_render (by simp [Json.spaced, Json.isBlank]) hfinite)
        simpa using List.find?_eq_none.mp hshort field hfield
      · simp at hnone
  · rw [if_neg hreaches] at hevent
    rw [render, hevent]
    exact .dropped (Nat.lt_of_not_le hreaches)

end Call

namespace Journal

/-- The log after a call, whether the call failed or not. -/
def after (j : Journal) (call : String × Call) : Journal :=
  match j.write call.1 call.2 with
  | .ok next => next
  | .error _ => j

/-- What a call added, if it did not fail. -/
def addition (result : Except CallFault Spelled) : Spelled := result.toOption.getD ""

theorem write_eq (j : Journal) (stamp : String) (c : Call) :
    j.write stamp c = (fun added => { j with text := j.text ++ added }) <$>
      c.render j.form j.threshold stamp := by
  rw [write]
  cases c.render j.form j.threshold stamp <;> rfl

theorem after_eq (j : Journal) (call : String × Call) :
    j.after call = { j with
      text := j.text ++ addition (call.2.render j.form j.threshold call.1) } := by
  rw [after, write_eq]
  cases call.2.render j.form j.threshold call.1 with
  | ok added => rfl
  | error f => simp [addition, Except.toOption]

/-- Calls add to the text one after the other.  A run in which all of them have to succeed ends
with the first that fails. -/
theorem foldl_after (form : Form) (threshold : Nat) (text : Spelled)
    (calls : List (String × Call)) :
    let results := calls.map fun call => call.2.render form threshold call.1
    calls.foldl after ⟨form, threshold, text⟩ =
        ⟨form, threshold, text ++ .join "" (results.map addition)⟩ ∧
      writeAll ⟨form, threshold, text⟩ calls =
        (fun added => ⟨form, threshold, text ++ .join "" added⟩) <$> results.mapM id := by
  intro results
  induction calls generalizing text with
  | nil => exact ⟨by simp [results, Spelled.join], by simp [results, writeAll, Spelled.join]⟩
  | cons call calls ih =>
      constructor
      · rw [List.foldl_cons, after_eq, (ih _).1]
        simp only [results, List.map_cons, Spelled.join_empty_cons, Spelled.append_assoc]
      · have hcons (j : Journal) : j.writeAll (call :: calls) =
            j.write call.1 call.2 >>= fun j => j.writeAll calls := rfl
        rw [hcons, write_eq]
        simp only [results, List.map_cons, List.mapM_cons]
        cases hrender : call.2.render form threshold call.1 with
        | error f => rfl
        | ok added =>
            have hrest := (ih (text ++ added)).2
            simp only [Functor.map, Except.map, bind, Except.bind, hrest]
            cases hmore : (calls.map fun call => call.2.render form threshold call.1).mapM id <;>
              simp [Spelled.join_empty_cons, Spelled.append_assoc, pure, Except.pure]

/-- A log in the JSON form has one line for each call that reaches the threshold and can be
written, in the order of the calls, and none for any other call. -/
theorem writeAll_json (level : Spelled) {calls : List (String × Call)}
    (h : ∀ call ∈ calls, call.2.IsPlain) :
    ∃ threshold results, IsThreshold level threshold ∧
      List.Forall₂ (fun call result => call.2.Adds threshold call.1 result) calls results ∧
      ∀ n, (calls.take n).foldl after (start level .json) =
          ⟨.json, threshold, .join "" ((results.take n).map addition)⟩ ∧
        (start level .json).writeAll (calls.take n) =
          (fun added => ⟨.json, threshold, .join "" added⟩) <$> (results.take n).mapM id := by
  refine ⟨thresholdNamed level,
    calls.map fun call => call.2.render .json (thresholdNamed level) call.1,
    isThreshold_thresholdNamed level, ?_, fun n => ?_⟩
  · rw [List.forall₂_map_right_iff, List.forall₂_same]
    exact fun call hcall => call.2.render_of_plain (h call hcall) _ _
  · obtain ⟨hafter, hrun⟩ := foldl_after .json (thresholdNamed level) "" (calls.take n)
    simp only [Spelled.empty_append] at hafter hrun
    rw [← List.map_take]
    exact ⟨hafter, hrun⟩

/-- Calls with a line feed, marks, a character above `\uffff`, a float and fields that overwrite
others, one that is below the threshold, one with an integer that is too long, and one that
reports what is being handled, with two halves of a pair in its name. -/
def markedCalls : List (String × Call) :=
  [("2024-05-01T10:00:00Z", {
      component := "relay"
      method := .warn
      name := "line\nfeed \"quoted\" 😀"
      bound := [("share", .int 1), ("ts", .text "mine")]
      given := [("component", .text "other"), ("share", .float (.finite true (Nat.pow 2 52) (-53))),
        ("level", .null)] }),
    ("2024-05-01T10:00:01Z", { component := "relay", method := .info, name := "unseen" }),
    ("2024-05-01T10:00:02Z", {
      component := "relay"
      method := .error
      name := "counted"
      given := [("count", .int (Nat.pow 10 4300))] }),
    ("2024-05-01T10:00:03Z", {
      component := "relay"
      method := .exception
      name := ⟨[.half false ⟨0x3d, by decide⟩, .half true ⟨0x200, by decide⟩]⟩
      raised := some ⟨.array [.object [("exc_type", .text "ValueError")]], "ValueError"⟩ })]

theorem writeAll_json_marked :
    (∀ call ∈ markedCalls, call.2.IsPlain) ∧
      ∃ line line', IsAsciiLine line ∧ IsAsciiLine line' ∧
        markedCalls.foldl after (start "Warning" .json) =
          ⟨.json, 30, String.ofList (line ++ ['\n']) ++ String.ofList (line' ++ ['\n'])⟩ ∧
        (start "Warning" .json).writeAll markedCalls = .error (.unwritable "count") ∧
        Json.read line = some (.object [
          ("component", .text "other"),
          ("share", .float (.finite true (Nat.pow 2 52) (-53))),
          ("ts", .text "2024-05-01T10:00:00Z"),
          ("level", .text "warning"),
          ("event", .text "line\nfeed \"quoted\" 😀")]) ∧
        Json.read line' = some (.object [
          ("component", .text "relay"),
          ("event", .text "😀"),
          ("level", .text "error"),
          ("ts", .text "2024-05-01T10:00:03Z"),
          ("exception", .array [.object [("exc_type", .text "ValueError")]])]) := by
  have hfloat : (Json.float (.finite true (Nat.pow 2 52) (-53))).IsFinite := by
    simp [Json.IsFinite, Number.Binary64.IsFinite, Number.Binary64.IsCanonical]
  have hplain : ∀ call ∈ markedCalls, call.2.IsPlain := by
    simp only [markedCalls, List.forall_mem_cons, List.not_mem_nil, false_implies, implies_true,
      and_true]
    refine ⟨⟨⟨by decide, by decide⟩, ?_, by simp⟩, ⟨⟨by decide, by decide⟩, by simp, by simp⟩,
      ⟨⟨by decide, by decide⟩, ?_, by simp⟩, ⟨⟨by decide, by decide⟩, by simp, ?_⟩⟩
    · simp only [List.cons_append, List.nil_append, List.forall_mem_cons]
      exact ⟨trivial, trivial, trivial, hfloat, trivial, by simp⟩
    · exact List.forall_mem_singleton.mpr trivial
    · rintro r ⟨⟩
      simp [Json.IsFinite, Json.AreFiniteItems, Json.AreFiniteFields]
  refine ⟨hplain, ?_⟩
  obtain ⟨threshold, results, hthreshold, hadds, hrun⟩ := writeAll_json "Warning" hplain
  obtain rfl : threshold = 30 := hthreshold.unique (isThreshold_thresholdNamed "Warning")
  obtain ⟨hafter, hall⟩ := hrun 4
  rcases hadds with _ | ⟨hfirst, _ | ⟨hsecond, _ | ⟨hthird, _ | ⟨hfourth, _ | _⟩⟩⟩⟩
  obtain ⟨line, rfl, hline, hread⟩ := hfirst.exists_line (by decide) (by decide +kernel)
  obtain rfl := hsecond.eq_empty (by decide)
  obtain rfl := hthird.eq_refused (by decide) "count" (by decide +kernel)
    (by decide +kernel)
  obtain ⟨line', rfl, hline', hread'⟩ := hfourth.exists_line (by decide) (by decide +kernel)
  have hpair : Spelled.joined ⟨[.half false 0x3d, .half true 0x200]⟩ = "😀" := by decide +kernel
  refine ⟨line, line', hline, hline', ?_, hall, hread, hpair ▸ hread'⟩
  have hevery : markedCalls.take 4 = markedCalls := rfl
  simpa [hevery, addition, Except.toOption, Spelled.join_empty_cons, Spelled.join] using hafter

/-- A line of the JSON form that tells a name, at some time. -/
def namedLine (name level more : String) : Spelled :=
  "\x7b\"component\": \"relay\", \"event\": \"" ++ name ++ "\", \"level\": \"" ++ level ++
    "\", \"ts\": \"0\"" ++ more ++ "\x7d\n"

/-- A name with letters that have no case of their own in ASCII sets the threshold too.  What is
being handled is written beside the entries of the call that reports it, two halves of a pair are
read back as one character, and an integer that is too long keeps its line out. -/
theorem writeAll_json_not_as_given :
    let calling (method : Method) (name : Spelled) : Call :=
      { component := "relay", method := method, name := name }
    let raised : Raised := ⟨.array [.object [("exc_type", .text "ValueError")]], "ValueError"⟩
    let halves : Spelled := ⟨[.half false 0x3d, .half true 0x200]⟩
    let long : Call := { calling .info "counted" with given := [("n", .int (Nat.pow 10 4300))] }
    (start "crıtıcal" .json).writeAll [("0", calling .info "seen")] =
        .ok ⟨.json, 50, ""⟩ ∧
      (start "info" .json).writeAll [("0", { calling .exception "seen" with raised := raised })] =
        .ok ⟨.json, 20, namedLine "seen" "error"
          ", \"exception\": [\x7b\"exc_type\": \"ValueError\"\x7d]"⟩ ∧
      (start "info" .json).writeAll [("0", calling .info halves)] =
        (start "info" .json).writeAll [("0", calling .info "😀")] ∧
      (start "info" .json).writeAll [("0", long)] = .error (.unwritable "n") := by
  decide +kernel

end Journal

end AlertRelay.Log
