import AlertRelay.Proofs.Discord.Delivery
import AlertRelay.Proofs.Json.Reading
import AlertRelay.Proofs.Text.Parts

/-!
# What a payload tells apart

The name of an endpoint ends at the first asterisk behind it, the length of the row of results
at the first blank, and the line of a condition at its line feed.  A payload can therefore be
cut into what it says, and two notifications have one payload exactly if they say the same.
-/

namespace AlertRelay.Discord

open AlertRelay.Number AlertRelay.Text

/-- What two notifications have in common if they say the same. -/
structure SaysTheSame (n m : Notification) : Prop where
  displayName : n.endpoint.displayName = m.endpoint.displayName
  resolved : n.resolved = m.resolved
  threshold : n.alert.threshold n.resolved = m.alert.threshold m.resolved
  description : n.alert.descriptionText = m.alert.descriptionText
  conditions : n.result.conditions = m.result.conditions

/-! ## Messages -/

/-- What follows the row of results. -/
def afterCount (a : Alert) : List Point :=
  Spelled.points "time(s) in a row" ++ (quotation a).points

def afterName (n : Notification) : List Point :=
  Spelled.points "* has been " ++
    ((if n.resolved then "resolved after passing successfully "
      else "triggered due to having failed " : Spelled).points ++
      (Spelled.points (integerText (n.alert.threshold n.resolved)) ++
        .char ' ' :: afterCount n.alert))

theorem points_message (n : Notification) :
    (headline n ++ quotation n.alert).points =
      Spelled.points "An alert for **" ++
        (n.endpoint.displayName.points ++ .char '*' :: afterName n) := by
  have hstars : Spelled.points "** has been " = .char '*' :: Spelled.points "* has been " := rfl
  have hblank : Spelled.points " time(s) in a row" =
      .char ' ' :: Spelled.points "time(s) in a row" := rfl
  unfold headline afterName afterCount
  cases n.resolved <;>
    simp only [Spelled.points_append, List.append_assoc, hstars, hblank, List.cons_append,
      if_true, Bool.false_eq_true, if_false]

theorem quotation_inj {a b : Alert} (h : quotation a = quotation b) :
    a.descriptionText = b.descriptionText := by
  unfold quotation at h
  split at h <;> split at h
  · simp_all
  · simp [Spelled.ext_iff] at h
  · simp [Spelled.ext_iff] at h
  · exact (Spelled.append_right_inj _).mp h

theorem message_inj {n m : Notification} (hn : Point.char '*' ∉ n.endpoint.displayName.points)
    (hm : Point.char '*' ∉ m.endpoint.displayName.points) (hresolved : n.resolved = m.resolved)
    (h : headline n ++ quotation n.alert = headline m ++ quotation m.alert) :
    n.endpoint.displayName = m.endpoint.displayName ∧
      n.alert.threshold n.resolved = m.alert.threshold m.resolved ∧
      n.alert.descriptionText = m.alert.descriptionText := by
  have hlist := congrArg Spelled.points h
  rw [points_message, points_message] at hlist
  -- cut at the asterisk behind the name, then at the blank behind the number
  obtain ⟨hname, hafter⟩ := (append_mark_inj hn hm).mp (List.append_cancel_left hlist)
  unfold afterName at hafter
  rw [hresolved] at hafter
  have hcount := List.append_cancel_left (List.append_cancel_left hafter)
  have hblank (i : Int) : Point.char ' ' ∉ Spelled.points (integerText i) := by
    rw [Spelled.points_whole, List.mem_map_of_injective fun _ _ => Point.char.inj]
    intro hmem
    exact absurd ((Json.isWord_integerText i).2 ' ' hmem) (by decide)
  obtain ⟨hthreshold, hrest⟩ := (append_mark_inj (hblank _) (hblank _)).mp hcount
  have hquotation := List.append_cancel_left hrest
  refine ⟨Spelled.ext hname, ?_, quotation_inj (Spelled.ext hquotation)⟩
  rw [hresolved]
  exact Json.integerText_inj (Spelled.whole_inj.mp (Spelled.ext hthreshold))

/-! ## Conditions -/

/-- The line of a condition before its line feed. -/
def linePoints (r : ConditionResult) : List Point :=
  (if r.success then successIcon else failureIcon : Spelled).points ++
    (Spelled.points " - \x60" ++ (r.condition.points ++ [.char '\x60']))

theorem points_conditionLines_cons (r : ConditionResult) (rs : List ConditionResult) :
    (conditionLines (r :: rs)).points =
      linePoints r ++ .char '\n' :: (conditionLines rs).points := by
  have hline : conditionLines (r :: rs) = conditionLine r ++ conditionLines rs := rfl
  rw [hline]
  cases hr : r.success <;> simp [conditionLine, linePoints, hr]

theorem not_mem_linePoints {r : ConditionResult} (h : Point.char '\n' ∉ r.condition.points) :
    Point.char '\n' ∉ linePoints r := by
  unfold linePoints
  cases r.success <;> simp [successIcon, failureIcon, h]

theorem linePoints_inj {r q : ConditionResult} (h : linePoints r = linePoints q) : r = q := by
  have hsuccess : r.success = q.success := by
    unfold linePoints at h
    cases hr : r.success <;> cases hq : q.success <;>
      simp [hr, hq, successIcon, failureIcon] at h ⊢
  have hcondition : r.condition = q.condition := by
    unfold linePoints at h
    rw [hsuccess] at h
    have hrest := List.append_cancel_left (List.append_cancel_left h)
    exact Spelled.ext (List.append_cancel_right hrest)
  cases r
  cases q
  simp_all

theorem conditionLines_inj {rs qs : List ConditionResult}
    (hrs : ∀ r ∈ rs, Point.char '\n' ∉ r.condition.points)
    (hqs : ∀ q ∈ qs, Point.char '\n' ∉ q.condition.points)
    (h : conditionLines rs = conditionLines qs) : rs = qs := by
  replace h := congrArg Spelled.points h
  -- the first lines end at the first line feed of each text, and so are equal
  induction rs generalizing qs with
  | nil =>
      cases qs with
      | nil => rfl
      | cons q qs =>
          rw [points_conditionLines_cons] at h
          have hlength := congrArg List.length h
          simp [conditionLines] at hlength
  | cons r rs ih =>
      cases qs with
      | nil =>
          rw [points_conditionLines_cons] at h
          have hlength := congrArg List.length h
          simp [conditionLines] at hlength
      | cons q qs =>
          rw [points_conditionLines_cons, points_conditionLines_cons] at h
          have hr := not_mem_linePoints (hrs r (by simp))
          have hq := not_mem_linePoints (hqs q (by simp))
          obtain ⟨hline, hrest⟩ := (append_mark_inj hr hq).mp h
          obtain rfl := linePoints_inj hline
          rw [ih (fun r hr => hrs r (by simp [hr])) (fun q hq => hqs q (by simp [hq])) hrest]

theorem conditionFields_inj {rs qs : List ConditionResult}
    (hrs : ∀ r ∈ rs, Point.char '\n' ∉ r.condition.points)
    (hqs : ∀ q ∈ qs, Point.char '\n' ∉ q.condition.points)
    (h : conditionFields rs = conditionFields qs) : rs = qs := by
  unfold conditionFields at h
  cases rs with
  | nil =>
      cases qs with
      | nil => rfl
      | cons q qs => simp at h
  | cons r rs =>
      cases qs with
      | nil => simp at h
      | cons q qs =>
          apply conditionLines_inj hrs hqs
          simpa using h

/-! ## Payloads -/

theorem color_inj {b b' : Bool}
    (h : (if b then resolvedColor else triggeredColor) =
      if b' then resolvedColor else triggeredColor) : b = b' := by
  cases b <;> cases b' <;> simp [resolvedColor, triggeredColor] at h ⊢

theorem payload_eq_iff {title : Spelled} {n m : Notification}
    (hn : Point.char '*' ∉ n.endpoint.displayName.points)
    (hm : Point.char '*' ∉ m.endpoint.displayName.points)
    (hnlines : ∀ r ∈ n.result.conditions, Point.char '\n' ∉ r.condition.points)
    (hmlines : ∀ r ∈ m.result.conditions, Point.char '\n' ∉ r.condition.points) :
    payload title n = payload title m ↔ SaysTheSame n m := by
  constructor
  · intro h
    unfold payload embed at h
    obtain ⟨hmessage, hcolor, hfields⟩ :
        headline n ++ quotation n.alert = headline m ++ quotation m.alert ∧
          (if n.resolved then resolvedColor else triggeredColor) =
            (if m.resolved then resolvedColor else triggeredColor) ∧
          conditionFields n.result.conditions = conditionFields m.result.conditions := by
      simpa using h
    have hresolved := color_inj hcolor
    obtain ⟨hname, hthreshold, hdescription⟩ := message_inj hn hm hresolved hmessage
    exact ⟨hname, hresolved, hthreshold, hdescription, conditionFields_inj hnlines hmlines hfields⟩
  · rintro ⟨hname, hresolved, hthreshold, hdescription, hconditions⟩
    unfold payload embed headline quotation
    simp only [hname, hthreshold, hdescription, hconditions]
    rw [hresolved]

/-- Two notifications have one payload exactly if they say the same, and say it with a threshold
that can be written. -/
theorem payload?_eq_iff (p : Provider) {n m : Notification}
    (hn : Point.char '*' ∉ n.endpoint.displayName.points)
    (hm : Point.char '*' ∉ m.endpoint.displayName.points)
    (hnlines : ∀ r ∈ n.result.conditions, Point.char '\n' ∉ r.condition.points)
    (hmlines : ∀ r ∈ m.result.conditions, Point.char '\n' ∉ r.condition.points) :
    (∃ body, p.payload? n = some body ∧ p.payload? m = some body) ↔
      SaysTheSame n m ∧ isWritable (n.alert.threshold n.resolved) = true := by
  simp only [Provider.payload?_eq_some_iff]
  constructor
  · rintro ⟨body, ⟨hwritable, hbody⟩, -, hbody'⟩
    exact ⟨(payload_eq_iff hn hm hnlines hmlines).mp (hbody.trans hbody'.symm), hwritable⟩
  · rintro ⟨hsame, hwritable⟩
    have hwritable' : isWritable (m.alert.threshold m.resolved) = true := by
      rw [← hsame.threshold]
      exact hwritable
    have heq : payload p.config.title n = payload p.config.title m :=
      (payload_eq_iff hn hm hnlines hmlines).mpr hsame
    exact ⟨_, ⟨hwritable, heq⟩, hwritable', rfl⟩

def ungrouped : Notification where
  endpoint := { name := "core/api" }
  alert := { enabled := some false, failureThreshold := some 7, successThreshold := some (-1) }
  result := { conditions := [⟨":x: - \x60a:b\x60", true⟩], errors := ["late"] }
  resolved := true

def grouped : Notification where
  endpoint := { name := "api", group := "core", url := "http://h/" }
  alert := { successThreshold := some (-1), description := some "" }
  result := { success := false, conditions := [⟨":x: - \x60a:b\x60", true⟩] }
  resolved := true

theorem payload?_ungrouped_eq_grouped :
    let p := Provider.ofConfig { webhookUrl := "http://h/" } .owned
    Point.char '*' ∉ ungrouped.endpoint.displayName.points ∧
      Point.char '*' ∉ grouped.endpoint.displayName.points ∧
      (∀ r ∈ ungrouped.result.conditions, Point.char '\n' ∉ r.condition.points) ∧
      (∀ r ∈ grouped.result.conditions, Point.char '\n' ∉ r.condition.points) ∧
      ∃ body, p.payload? ungrouped = some body ∧ p.payload? grouped = some body := by
  intro p
  have hname : Point.char '*' ∉ ungrouped.endpoint.displayName.points := by decide
  have hname' : Point.char '*' ∉ grouped.endpoint.displayName.points := by decide
  have hlines : ∀ r ∈ ungrouped.result.conditions, Point.char '\n' ∉ r.condition.points := by decide
  have hlines' : ∀ r ∈ grouped.result.conditions, Point.char '\n' ∉ r.condition.points := by decide
  refine ⟨hname, hname', hlines, hlines', ?_⟩
  apply (payload?_eq_iff p hname hname' hlines hlines').mpr
  exact ⟨⟨by decide, rfl, rfl, rfl, rfl⟩, by decide +kernel⟩

/-- Notifications that say the same with a threshold of 4301 digits have no payload at all. -/
theorem payload?_of_long_threshold :
    let p := Provider.ofConfig { webhookUrl := "http://h/" } .owned
    let alert : Alert := { failureThreshold := some (Nat.pow 10 4300) }
    let n : Notification := { endpoint := { name := "api" }, alert }
    let m : Notification := { endpoint := { name := "api", url := "http://h/" }, alert }
    Point.char '*' ∉ n.endpoint.displayName.points ∧
      Point.char '*' ∉ m.endpoint.displayName.points ∧
      n.result.conditions = [] ∧ m.result.conditions = [] ∧ SaysTheSame n m ∧
      ¬∃ body, p.payload? n = some body ∧ p.payload? m = some body := by
  intro p alert n m
  refine ⟨by decide, by decide, rfl, rfl, ⟨rfl, rfl, rfl, rfl, rfl⟩, ?_⟩
  rintro ⟨body, hbody, -⟩
  have hlong : isWritable (n.alert.threshold n.resolved) = false := by decide +kernel
  obtain ⟨hwritable, -⟩ := Provider.payload?_eq_some_iff.mp hbody
  rw [hlong] at hwritable
  cases hwritable

end AlertRelay.Discord
