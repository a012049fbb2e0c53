import AlertRelay.Log.Line
import AlertRelay.Proofs.Json.Fields
import AlertRelay.Proofs.Text.Parts
import AlertRelay.Proofs.Text.Quoted

/-!
# What console lines tell

A line of the console form has one line feed, at its end, and it tells level and name of its
event and every key with the value as it is shown.  A text that could be mistaken for
something else is quoted, so no text passes for the end of its field.
-/

namespace AlertRelay.Log

open AlertRelay.Text

variable {s t : Spelled} {v w : Json} {r r' : List Point} {p : Point}

/-! ## Shown values -/

/-- Whether no point of a text would have it quoted. -/
def IsBare (s : List Point) : Prop := ∀ p ∈ s, needsQuotes p = false

theorem IsBare.not_mem {s : List Point} (h : IsBare s) (hp : needsQuotes p = true) : p ∉ s :=
  fun hmem => by simp [h p hmem] at hp

theorem needsQuotes_of_isMark {c : Char} (h : IsMark c) : needsQuotes (.char c) = true := by
  rcases h with rfl | rfl <;> decide

theorem shownText_cases (s : Spelled) :
    (IsBare s.points ∧ shownText s = s) ∨ shownText s = quoted s := by
  rw [shownText]
  split
  · exact .inr rfl
  · rename_i hbare
    refine .inl ⟨fun p hp => ?_, rfl⟩
    simp only [List.any_eq_true, not_exists, not_and] at hbare
    simpa using hbare p hp

theorem points_quoted (s : Spelled) :
    (quoted s : Spelled).points = (quotedPoints s.points).map .char := by
  rw [quoted, Spelled.points_whole, String.toList_ofList]

/-- Values that are no containers: texts, truth values and integers. -/
def IsScalar : Json → Prop
  | .text _ | .bool _ | .int _ => True
  | .null | .float _ | .array _ | .object _ => False

theorem isBare_of_isWord {s : List Char} (h : Json.IsWord s) : IsBare (s.map .char) := by
  intro p hp
  obtain ⟨c, hc, rfl⟩ := List.mem_map.mp hp
  have hword := h.2 c hc
  by_contra hquotes
  simp only [needsQuotes, Bool.not_eq_false, Bool.or_eq_true, beq_iff_eq, Point.char.injEq]
    at hquotes
  rcases hquotes with (((((rfl | rfl) | rfl) | rfl) | rfl) | rfl) | rfl <;>
    exact absurd hword (by decide)

theorem isBare_shown_int (i : Int) : IsBare (shown (.int i)).points := by
  have hshown : shown (.int i) = (Value.integerText? i).getD "" := rfl
  rw [hshown, Value.integerText?]
  split
  · exact isBare_of_isWord (Json.isWord_integerText i)
  · simp [IsBare]

/-- What is shown is bare or stands between marks. -/
theorem shown_cases (hv : IsScalar v) :
    IsBare (shown v).points ∨ ∃ s : List Point, (shown v).points = (quotedPoints s).map .char := by
  cases v with
  | text s =>
      rcases shownText_cases s with ⟨hbare, hshown⟩ | hquoted
      · exact .inl (by rwa [shown, hshown])
      · exact .inr ⟨s.points, by rw [shown, hquoted, points_quoted]⟩
  | bool b =>
      refine .inl ?_
      cases b
      · exact isBare_of_isWord (s := "False".toList) (Json.isWord_of_all (by decide) rfl)
      · exact isBare_of_isWord (s := "True".toList) (Json.isWord_of_all (by decide) rfl)
  | int i => exact .inl (isBare_shown_int i)
  | null => exact hv.elim
  | float x => exact hv.elim
  | array items => exact hv.elim
  | object fields => exact hv.elim

theorem lineFeed_not_mem_shown (hv : IsScalar v) : .char '\n' ∉ (shown v).points := by
  rcases shown_cases hv with hbare | ⟨s, hquoted⟩
  · exact hbare.not_mem (by decide)
  · rw [hquoted]
    simpa using lineFeed_not_mem_quotedPoints s

theorem getLast?_shown (hv : IsScalar v) : (shown v).points.getLast? ≠ some (.char ' ') := by
  rcases shown_cases hv with hbare | ⟨s, hquoted⟩
  · intro h
    exact hbare.not_mem (by decide) (List.mem_of_getLast? h)
  · have hmark := isMark_quotationMark s
    rw [hquoted, quotedPoints, List.map_append, List.map_singleton, List.getLast?_concat]
    rcases hmark with h | h <;> rw [h] <;> decide

/-- What follows a value in a line: nothing, or a blank. -/
def EndsValue (r : List Point) : Prop := ∀ p ∈ r.head?, p = .char ' '

theorem bare_cut {x y : List Point} (hx : IsBare x) (hy : IsBare y) (hr : EndsValue r)
    (hr' : EndsValue r') (h : x ++ r = y ++ r') : x = y ∧ r = r' := by
  have hblank : needsQuotes (.char ' ') = true := by decide
  -- one of the rests may be empty, so a blank is put behind both before they are cut
  have hend {r : List Point} (hr : EndsValue r) :
      ∃ more, r ++ [.char ' '] = .char ' ' :: more := by
    cases r with
    | nil => exact ⟨[], rfl⟩
    | cons p r => exact ⟨r ++ [.char ' '], by rw [hr p rfl, List.cons_append]⟩
  obtain ⟨more, hmore⟩ := hend hr
  obtain ⟨more', hmore'⟩ := hend hr'
  have hlonger := congrArg (· ++ [.char ' ']) h
  simp only [List.append_assoc, hmore, hmore'] at hlonger
  obtain ⟨rfl, -⟩ := (append_mark_inj (hx.not_mem hblank) (hy.not_mem hblank)).mp hlonger
  exact ⟨rfl, List.append_cancel_left h⟩

theorem bare_ne_quotedPoints {x s : List Point} (hx : IsBare x) (hr : EndsValue r) :
    x ++ r ≠ (quotedPoints s).map .char ++ r' := by
  have hmark := isMark_quotationMark s
  intro h
  cases x with
  | nil =>
      rw [List.nil_append] at h
      have hblank := hr (.char (quotationMark s)) (by rw [h]; rfl)
      rw [Point.char.inj hblank] at hmark
      exact absurd hmark (by simp [IsMark, singleMark, doubleMark])
  | cons p x =>
      have hp : p = .char (quotationMark s) := (List.cons.inj h).1
      exact hx.not_mem (needsQuotes_of_isMark hmark) (hp ▸ List.mem_cons_self)

/-- A shown value tells where it ends. -/
theorem shown_cut (hv : IsScalar v) (hw : IsScalar w) (hr : EndsValue r) (hr' : EndsValue r')
    (h : (shown v).points ++ r = (shown w).points ++ r') : shown v = shown w ∧ r = r' := by
  rcases shown_cases hv with hx | ⟨x, hx⟩ <;> rcases shown_cases hw with hy | ⟨y, hy⟩
  · obtain ⟨hsame, hrest⟩ := bare_cut hx hy hr hr' h
    exact ⟨Spelled.ext hsame, hrest⟩
  · rw [hy] at h
    exact absurd h (bare_ne_quotedPoints hx hr)
  · rw [hx] at h
    exact absurd h.symm (bare_ne_quotedPoints hy hr')
  · rw [hx, hy] at h
    obtain ⟨rfl, hrest⟩ := map_quotedPoints_cut h
    exact ⟨Spelled.ext (hx.trans hy.symm), hrest⟩

/-- Different texts are shown in different ways. -/
theorem shownText_inj (h : shownText s = shownText t) : s = t := by
  have hne {s t : Spelled} (hbare : IsBare s.points) (h : s = quoted t) : False := by
    have hpoints : s.points ++ [] = (quotedPoints t.points).map .char ++ [] := by
      rw [h, points_quoted]
    exact bare_ne_quotedPoints hbare (by simp [EndsValue]) hpoints
  rcases shownText_cases s with ⟨hs, hshown⟩ | hshown <;>
    rcases shownText_cases t with ⟨ht, hshown'⟩ | hshown' <;> rw [hshown, hshown'] at h
  · exact h
  · exact (hne hs h).elim
  · exact (hne ht h.symm).elim
  · have hpoints := congrArg (·.points ++ []) h
    simp only [points_quoted] at hpoints
    exact Spelled.ext (map_quotedPoints_cut hpoints).1

/-! ## Sorted fields -/

theorem insertSorted_perm (field : Spelled × Json) (fields : List (Spelled × Json)) :
    (insertSorted field fields).Perm (field :: fields) := by
  induction fields with
  | nil => exact .refl _
  | cons f fields ih =>
      rw [insertSorted]
      split
      · exact .refl _
      · exact (ih.cons f).trans (.swap field f fields)

theorem sorted_perm (fields : List (Spelled × Json)) : (sorted fields).Perm fields := by
  induction fields with
  | nil => exact .refl _
  | cons field fields ih => exact (insertSorted_perm field _).trans (ih.cons field)

/-! ## Pairs -/

/-- A field as it is written behind others. -/
def pairPoints (field : Spelled × Json) : List Point :=
  .char ' ' :: field.1.points ++ .char '=' :: (shown field.2).points

/-- Whether a field can be told from its pair. -/
structure IsTold (field : Spelled × Json) : Prop where
  key : .char '=' ∉ field.1.points ∧ .char '\n' ∉ field.1.points
  value : IsScalar field.2

theorem endsValue_pairs (fields : List (Spelled × Json)) :
    EndsValue (fields.flatMap pairPoints) := by
  intro c hc
  cases fields with
  | nil => simp at hc
  | cons field fields => simpa [pairPoints, eq_comm] using hc

/-- Pairs in a row tell their keys and what is shown of the values. -/
theorem pairs_cut {fields others : List (Spelled × Json)} (hfields : ∀ f ∈ fields, IsTold f)
    (hothers : ∀ f ∈ others, IsTold f)
    (h : fields.flatMap pairPoints = others.flatMap pairPoints) :
    (fields.map fun (key, v) => (key, shown v)) = others.map fun (key, v) => (key, shown v) := by
  induction fields generalizing others with
  | nil =>
      cases others with
      | nil => rfl
      | cons other others => simp [pairPoints] at h
  | cons field fields ih =>
      cases others with
      | nil => simp [pairPoints] at h
      | cons other others =>
          obtain ⟨key, v⟩ := field
          obtain ⟨key', w⟩ := other
          obtain ⟨hfield, hrest⟩ := List.forall_mem_cons.mp hfields
          obtain ⟨hother, hrest'⟩ := List.forall_mem_cons.mp hothers
          simp only [List.flatMap_cons, pairPoints, List.cons_append, List.append_assoc,
            List.cons.injEq, true_and] at h
          -- the key ends at the first equals sign, and what is shown tells where it ends
          obtain ⟨hkey, hvalues⟩ := (append_mark_inj hfield.key.1 hother.key.1).mp h
          obtain rfl : key = key' := Spelled.ext hkey
          obtain ⟨hshown, hpairs⟩ := shown_cut hfield.value hother.value
            (endsValue_pairs fields) (endsValue_pairs others) hvalues
          rw [List.map_cons, List.map_cons, ih hrest hrest' hpairs]
          simp only [hshown]

theorem lineFeed_not_mem_pairs {fields : List (Spelled × Json)}
    (hfields : ∀ f ∈ fields, IsTold f) : .char '\n' ∉ fields.flatMap pairPoints := by
  intro h
  obtain ⟨field, hfield, hc⟩ := List.mem_flatMap.mp h
  have htold := hfields field hfield
  simp only [pairPoints, List.cons_append, List.mem_cons, List.mem_append] at hc
  rcases hc with hc | hc | hc | hc
  · exact absurd hc (by decide)
  · exact htold.key.2 hc
  · exact absurd hc (by decide)
  · exact lineFeed_not_mem_shown htold.value hc

theorem getLast?_pairs {fields : List (Spelled × Json)} (hfields : ∀ f ∈ fields, IsTold f) :
    (fields.flatMap pairPoints).getLast? ≠ some (.char ' ') := by
  induction fields with
  | nil => simp
  | cons field fields ih =>
      obtain ⟨hfield, hrest⟩ := List.forall_mem_cons.mp hfields
      rw [List.flatMap_cons, List.getLast?_append]
      cases hlast : (fields.flatMap pairPoints).getLast? with
      | some c => simpa [hlast] using ih hrest
      | none =>
          have hshown := getLast?_shown hfield.value
          rw [Option.none_or, pairPoints, List.getLast?_append, List.getLast?_cons]
          cases hend : (shown field.2).points.getLast? with
          | some c => simpa [hend] using hshown
          | none => simp

/-! ## Flat events -/

/-- The keys that have a place of their own in a line, or none at all. -/
def takenKeys : List Spelled :=
  "component" :: "ts" :: (columns.map Prod.fst ++ belowLine ++ traceFields)

/-- Events whose fields all become pairs. -/
structure Event.IsFlat (e : Event) : Prop where
  name : .char ' ' ∉ e.name.points ∧ .char '\n' ∉ e.name.points
  distinct : (e.fields.map Prod.fst).Nodup
  free : ∀ key ∈ takenKeys, key ∉ e.fields.map Prod.fst
  told : ∀ f ∈ e.fields, IsTold f

def Event.pairs (stamp : String) (e : Event) : List (Spelled × Json) :=
  ("component", .text e.component) :: (e.fields ++ [(.whole "ts", .text stamp)])

variable {e e' : Event} {stamp stamp' : String}

theorem isColumn_of_not_mem {key : Spelled} (h : key ∉ columns.map Prod.fst) :
    isColumn key = false := by
  rw [isColumn, List.any_eq_false]
  intro column hcolumn
  rw [beq_iff_eq]
  rintro rfl
  exact h (List.mem_map_of_mem hcolumn)

namespace Event.IsFlat

theorem nodup_append (h : e.IsFlat) (own : List Spelled) (hown : (.whole "component" :: own).Nodup)
    (htaken : ∀ key ∈ own, key ∈ takenKeys) :
    (.whole "component" :: (e.fields.map Prod.fst ++ own)).Nodup := by
  obtain ⟨hcomponent, hown⟩ := List.nodup_cons.mp hown
  rw [List.nodup_cons, List.mem_append, not_or]
  refine ⟨⟨h.free "component" (by decide), hcomponent⟩,
    List.nodup_append.mpr ⟨h.distinct, hown, ?_⟩⟩
  rintro key hkey other hother rfl
  exact h.free key (htaken key hother) hkey

theorem nodup_pairs (h : e.IsFlat) (stamp : String) : ((e.pairs stamp).map Prod.fst).Nodup := by
  have hnodup := h.nodup_append ["ts"] (by decide) (by decide)
  rwa [pairs, List.map_cons, List.map_append]

theorem told_pairs (h : e.IsFlat) (stamp : String) : ∀ f ∈ sorted (e.pairs stamp), IsTold f := by
  intro f hf
  rw [(sorted_perm _).mem_iff, pairs, List.mem_cons, List.mem_append, List.mem_singleton] at hf
  rcases hf with rfl | hf | rfl
  · exact ⟨⟨by simp, by simp⟩, trivial⟩
  · exact h.told f hf
  · exact ⟨⟨by simp, by simp⟩, trivial⟩

theorem told_eq (h : e.IsFlat) (stamp : String) :
    e.told stamp =
      (.whole "component", .text e.component) :: (e.fields ++ e.heading stamp) := by
  have hkeep : ∀ f ∈ e.fields, f.1 ∉ traceFields := fun f hf htrace =>
    h.free f.1 (by simp [takenKeys, htrace]) (List.mem_map_of_mem hf)
  have hnodup := h.nodup_append ["event", "level", "ts"] (by decide) (by decide)
  rw [Event.told, Json.filter_of_keys hkeep, Json.setFields_of_nodup]
  · rfl
  · simpa [heading] using hnodup

/-- An event of this kind asks for no trace. -/
theorem asksTrace_eq_false (h : e.IsFlat) : e.asksTrace = false := by
  have hfree := h.free traceField (by decide)
  have hnodup : (([] ++ e.fields).map Prod.fst).Nodup := h.distinct
  rw [asksTrace, Json.setFields_of_nodup hnodup, List.nil_append, Json.lookup_of_not_mem hfree]

theorem lookup_told (h : e.IsFlat) {key : Spelled} (hkey : key ∈ takenKeys)
    (hne : key ≠ "component") : (e.told stamp).lookup key = (e.heading stamp).lookup key := by
  have hfields : key ∉ ((.whole "component", .text e.component) :: e.fields).map Prod.fst := by
    rw [List.map_cons, List.mem_cons, not_or]
    exact ⟨hne, h.free key hkey⟩
  rw [h.told_eq, ← List.cons_append, List.lookup_append, Json.lookup_of_not_mem hfields,
    Option.none_or]

theorem columns_told (h : e.IsFlat) (stamp : String) :
    columns.filterMap (fun (key, form) => ((e.told stamp).lookup key).map form) =
      ["[" ++ padded 9 e.level.name ++ "]", padded 30 e.name] := by
  have htaken : ∀ key ∈ columns.map Prod.fst, key ∈ takenKeys ∧ key ≠ "component" := by decide
  have hlookup (column : Spelled × (Json → Spelled)) (hcolumn : column ∈ columns) :
      ((e.told stamp).lookup column.1).map column.2 =
        ((e.heading stamp).lookup column.1).map column.2 := by
    obtain ⟨htaken, hne⟩ := htaken column.1 (List.mem_map_of_mem hcolumn)
    rw [h.lookup_told htaken hne]
  rw [List.filterMap_congr hlookup]
  rfl

theorem filter_told (h : e.IsFlat) (stamp : String) :
    (e.told stamp).filter (fun (key, _) => !isColumn key && !belowLine.contains key) =
      e.pairs stamp := by
  have hkeep : e.fields.filter (fun (key, _) => !isColumn key && !belowLine.contains key) =
      e.fields := by
    rw [List.filter_eq_self]
    intro f hf
    have hfree : f.1 ∉ takenKeys := fun hkey => h.free f.1 hkey (List.mem_map_of_mem hf)
    simp only [takenKeys, List.mem_cons, List.mem_append, not_or] at hfree
    obtain ⟨-, -, ⟨hcolumn, hbelow⟩, -⟩ := hfree
    simpa [isColumn_of_not_mem hcolumn] using hbelow
  have hheading : (e.heading stamp).filter
      (fun (key, _) => !isColumn key && !belowLine.contains key) =
        [(.whole "ts", .text stamp)] := rfl
  rw [h.told_eq, List.filter_cons_of_pos rfl, List.filter_append, hkeep, hheading]
  rfl

theorem pieces_told (h : e.IsFlat) (stamp : String) :
    pieces (e.told stamp) = ("[" ++ padded 9 e.level.name ++ "]") :: padded 30 e.name ::
      (sorted (e.pairs stamp)).map fun (key, v) => key ++ "=" ++ shown v := by
  rw [pieces, h.columns_told, h.filter_told]
  rfl

end Event.IsFlat

/-! ## Lines of flat events -/

theorem trimSpaces_of_getLast? (h : s.points.getLast? ≠ some (.char ' ')) : trimSpaces s = s := by
  have hkeep : s.points.reverse.dropWhile (· == .char ' ') = s.points.reverse := by
    rw [← List.head?_reverse] at h
    cases hreverse : s.points.reverse with
    | nil => rfl
    | cons p rest =>
        rw [hreverse, List.head?_cons] at h
        exact List.dropWhile_cons_of_neg (by simpa using h)
  rw [trimSpaces, hkeep, List.reverse_reverse]

def Event.consoleBody (stamp : String) (e : Event) : List Point :=
  .char '[' :: (padded 9 e.level.name).points ++
    .char ']' :: .char ' ' :: (padded 30 e.name).points ++
      (sorted (e.pairs stamp)).flatMap pairPoints

theorem Event.exists_pairs (stamp : String) (e : Event) :
    ∃ r, (sorted (e.pairs stamp)).flatMap pairPoints = .char ' ' :: r := by
  have hlength := (sorted_perm (e.pairs stamp)).length_eq
  cases hsorted : sorted (e.pairs stamp) with
  | nil =>
      rw [hsorted, pairs, List.length_cons] at hlength
      exact absurd hlength (by simp)
  | cons field fields => exact ⟨_, rfl⟩

theorem points_padded (width : Nat) (s : Spelled) :
    (padded width s).points =
      s.points ++ List.replicate (width - s.points.length) (.char ' ') := by
  rw [padded, Spelled.points_append, Spelled.points_ofChars, List.map_replicate]

theorem padded_ne_empty {width : Nat} (h : width ≠ 0) (s : Spelled) : padded width s ≠ "" := by
  intro hempty
  have hlength := congrArg List.length (Spelled.eq_empty_iff.mp hempty)
  rw [points_padded, List.length_append, List.length_replicate, List.length_nil] at hlength
  omega

namespace Event.IsFlat

theorem textOf?_told (h : e.IsFlat) {key : Spelled} (hkey : key ∈ belowLine) :
    textOf? (e.told stamp) key = none := by
  have hown : ∀ key ∈ belowLine,
      key ∈ takenKeys ∧ key ≠ "component" ∧ key ∉ (["event", "level", "ts"] : List Spelled) := by
    decide
  obtain ⟨htaken, hcomponent, hown⟩ := hown key hkey
  have hnone : (e.heading stamp).lookup key = none := Json.lookup_of_not_mem hown
  rw [textOf?, h.lookup_told htaken hcomponent, hnone]

theorem filter_pieces (h : e.IsFlat) (stamp : String) :
    (pieces (e.told stamp)).filter (· != .whole "") = pieces (e.told stamp) := by
  rw [List.filter_eq_self, h.pieces_told]
  intro piece hpiece
  rw [bne_iff_ne]
  rw [List.mem_cons, List.mem_cons, List.mem_map] at hpiece
  rcases hpiece with rfl | rfl | ⟨field, -, rfl⟩
  · simp [Spelled.eq_empty_iff]
  · exact padded_ne_empty (by decide) _
  · simp [Spelled.eq_empty_iff]

theorem points_join (h : e.IsFlat) (stamp : String) :
    (Spelled.join " " (pieces (e.told stamp))).points = e.consoleBody stamp := by
  have hpair (field : Spelled × Json) :
      (" " : Spelled).points ++ (Spelled.points ∘ fun (key, v) => key ++ "=" ++ shown v) field =
        pairPoints field := by
    simp [pairPoints]
  rw [h.pieces_told, Spelled.points_join, List.map_cons, intercalate_cons, List.map_cons,
    List.flatMap_cons, List.map_map, List.flatMap_map]
  simp only [hpair]
  simp [consoleBody]

theorem getLast?_consoleBody (h : e.IsFlat) (stamp : String) :
    (e.consoleBody stamp).getLast? ≠ some (.char ' ') := by
  obtain ⟨r, hr⟩ := e.exists_pairs stamp
  have hlast := getLast?_pairs (h.told_pairs stamp)
  rw [consoleBody, List.getLast?_append]
  rw [hr, List.getLast?_cons] at hlast ⊢
  simpa using hlast

theorem consoleLine_eq (h : e.IsFlat) (stamp : String) :
    (consoleLine stamp none e).points = e.consoleBody stamp ++ [.char '\n'] := by
  have htrim : trimSpaces (.join " " (pieces (e.told stamp))) =
      .join " " (pieces (e.told stamp)) := by
    apply trimSpaces_of_getLast?
    rw [h.points_join]
    exact h.getLast?_consoleBody stamp
  have hraised : raisedText? stamp none e = none := by
    rw [raisedText?, traced?, h.asksTrace_eq_false]
    exact h.textOf?_told (by decide)
  rw [consoleLine, h.textOf?_told (by decide), hraised, below, h.filter_pieces, htrim,
    Spelled.append_empty, Spelled.points_append, h.points_join]
  rfl

end Event.IsFlat

theorem padded_cut {width : Nat} (hs : .char ' ' ∉ s.points) (ht : .char ' ' ∉ t.points)
    (h : (padded width s).points ++ .char ' ' :: r =
      (padded width t).points ++ .char ' ' :: r') :
    s = t ∧ r = r' := by
  have hblank (n : Nat) (r : List Point) :
      List.replicate n (.char ' ') ++ .char ' ' :: r =
        .char ' ' :: (List.replicate n (.char ' ') ++ r) := by
    rw [List.append_cons, ← List.replicate_succ', List.replicate_succ, List.cons_append]
  rw [points_padded, points_padded, List.append_assoc, List.append_assoc, hblank, hblank,
    append_mark_inj hs ht] at h
  obtain ⟨hname, hrest⟩ := h
  obtain rfl := Spelled.ext hname
  exact ⟨rfl, List.append_cancel_left hrest⟩

theorem Event.IsFlat.lineFeed_not_mem (h : e.IsFlat) (stamp : String) :
    .char '\n' ∉ e.consoleBody stamp := by
  have hlevel : .char '\n' ∉ (padded 9 e.level.name).points := by cases e.level <;> decide
  have hname : .char '\n' ∉ (padded 30 e.name).points := by
    rw [points_padded, List.mem_append, not_or]
    exact ⟨h.name.2, by simp⟩
  have hpairs := lineFeed_not_mem_pairs (h.told_pairs stamp)
  simp [Event.consoleBody, hlevel, hname, hpairs]

/-- What a line tells: level, name, and every key with the value as it is shown. -/
theorem Event.IsFlat.consoleLine_inj (h : e.IsFlat) (h' : e'.IsFlat)
    (hline : consoleLine stamp none e = consoleLine stamp' none e') :
    e.level = e'.level ∧ e.name = e'.name ∧
      ∀ key, ((e.pairs stamp).lookup key).map shown = ((e'.pairs stamp').lookup key).map shown := by
  have hmark (l : Level) : .char ']' ∉ (padded 9 l.name).points := by cases l <;> decide
  have hpoints := congrArg Spelled.points hline
  rw [h.consoleLine_eq, h'.consoleLine_eq] at hpoints
  have hbody := List.append_cancel_right hpoints
  obtain ⟨r, hr⟩ := e.exists_pairs stamp
  obtain ⟨r', hr'⟩ := e'.exists_pairs stamp'
  simp only [Event.consoleBody, hr, hr', List.cons_append, List.append_assoc, List.cons.injEq,
    true_and] at hbody
  obtain ⟨hlevel, hrest⟩ := (append_mark_inj (hmark _) (hmark _)).mp hbody
  obtain ⟨hname, hpairs⟩ := padded_cut h.name.1 h'.name.1 (List.cons.inj hrest).2
  have hshown := pairs_cut (h.told_pairs stamp) (h'.told_pairs stamp') (by rw [hr, hr', hpairs])
  refine ⟨?_, hname, fun key => ?_⟩
  · revert hlevel
    cases e.level <;> cases e'.level <;> decide
  · rw [Json.lookup_perm (h.nodup_pairs stamp) (sorted_perm _).symm,
      Json.lookup_perm (h'.nodup_pairs stamp') (sorted_perm _).symm, ← Json.lookup_map, hshown,
      Json.lookup_map]

example : consoleLine "0" none ⟨"cli", .error, "refused", [("error", .text "a\nts=1")]⟩ =
    "[error    ] refused                        component=cli error='a\\nts=1' ts=0\n" := by
  decide +kernel

/-! ## Texts of flat events -/

theorem Event.IsFlat.lookup_pairs (h : e.IsFlat) {field : Spelled × Json}
    (hfield : field ∈ e.pairs stamp) : (e.pairs stamp).lookup field.1 = some field.2 :=
  Json.lookup_of_mem (h.nodup_pairs stamp) hfield

/-- Whether the fields of an event with text are those with the given keys. -/
def Event.HasTextsAt (keys : List Spelled) (e : Event) : Prop :=
  ∀ f ∈ e.fields, (∃ text, f.2 = .text text) ↔ f.1 ∈ keys

/-- Whether events are the same but for values that are no texts. -/
structure Event.SameTexts (e e' : Event) : Prop where
  component : e.component = e'.component
  level : e.level = e'.level
  name : e.name = e'.name
  texts : ∀ key text, e.fields.lookup key = some (.text text) ↔
    e'.fields.lookup key = some (.text text)

section

variable {keys : List Spelled} (h : e.IsFlat) (h' : e'.IsFlat)
  (hline : consoleLine stamp none e = consoleLine stamp' none e')
include h h' hline

theorem Event.IsFlat.text_eq (key : Spelled) {text text' : Spelled}
    (htext : (key, Json.text text) ∈ e.pairs stamp)
    (htext' : (key, Json.text text') ∈ e'.pairs stamp') : text = text' := by
  have hshown := (h.consoleLine_inj h' hline).2.2 key
  rw [h.lookup_pairs htext, h'.lookup_pairs htext'] at hshown
  exact shownText_inj (Option.some.inj hshown)

theorem Event.IsFlat.lookup_text (htexts : e.HasTextsAt keys) (htexts' : e'.HasTextsAt keys)
    {key text : Spelled} (hkey : e.fields.lookup key = some (.text text)) :
    e'.fields.lookup key = some (.text text) := by
  have hmem := Json.mem_of_lookup hkey
  have hpair : (key, Json.text text) ∈ e.pairs stamp := by simp [Event.pairs, hmem]
  have hfree (taken : Spelled) (htaken : taken ∈ takenKeys) : key ≠ taken := fun heq =>
    h.free taken htaken (heq ▸ List.mem_map_of_mem hmem)
  have hshown := (h.consoleLine_inj h' hline).2.2 key
  rw [h.lookup_pairs hpair, Option.map_some, eq_comm, Option.map_eq_some_iff] at hshown
  obtain ⟨v, hv, -⟩ := hshown
  have hpair' := Json.mem_of_lookup hv
  have hmem' : (key, v) ∈ e'.fields := by
    simpa [Event.pairs, hfree "component" (by decide), hfree "ts" (by decide)] using hpair'
  -- a number may be shown like a text, but not under the same key
  obtain ⟨text', rfl⟩ : ∃ text', v = .text text' :=
    (htexts' _ hmem').mpr ((htexts _ hmem).mp ⟨text, rfl⟩)
  rw [h.text_eq h' hline key hpair hpair']
  exact Json.lookup_of_mem h'.distinct hmem'

/-- Lines that are alike tell the same texts, and the same time. -/
theorem Event.IsFlat.sameTexts (htexts : e.HasTextsAt keys) (htexts' : e'.HasTextsAt keys) :
    e.SameTexts e' ∧ stamp = stamp' := by
  obtain ⟨hlevel, hname, -⟩ := h.consoleLine_inj h' hline
  refine ⟨⟨?_, hlevel, hname, fun key text => ⟨?_, ?_⟩⟩, ?_⟩
  · exact h.text_eq h' hline "component" (by simp [Event.pairs]) (by simp [Event.pairs])
  · exact h.lookup_text h' hline htexts htexts'
  · exact h'.lookup_text h hline.symm htexts' htexts
  · have hstamp : Spelled.whole stamp = .whole stamp' :=
      h.text_eq h' hline "ts" (by simp [Event.pairs]) (by simp [Event.pairs])
    exact Spelled.whole_inj.mp hstamp

end

/-! ## Logs -/

theorem render_append (form : Form) (threshold : Nat) (stamp : String) (events more : List Event) :
    render form threshold stamp (events ++ more) =
      render form threshold stamp events ++ render form threshold stamp more := by
  rw [render, reaching, List.filter_append, List.map_append, Spelled.join_empty_append]
  rfl

end AlertRelay.Log
