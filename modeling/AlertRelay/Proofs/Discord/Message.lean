import AlertRelay.Proofs.Discord.Delivery
import AlertRelay.Proofs.Json.Reading
import AlertRelay.Proofs.Text.Utf8

/-!
# What is posted

The body of a request is the payload of its notification in another form: whoever decodes the
bytes and reads the text has the payload again, with every text of it as it was.
-/

namespace AlertRelay.Discord

open AlertRelay.Http AlertRelay.Text

theorem isFinite_payload (title : Spelled) (n : Notification) : (payload title n).IsFinite := by
  cases hconditions : n.result.conditions <;>
    simp [payload, embed, conditionFields, hconditions, Json.IsFinite, Json.AreFiniteFields,
      Json.AreFiniteItems]

theorem read_bodyBytes_postRequest (url : String) {body : Json} (hbody : body.IsFinite)
    (hwhole : body.isWhole = true) :
    ∃ text, Utf8.strict? (postRequest url body).bodyBytes = some text ∧
      Json.read text = some body := by
  have hread : Json.read (Json.render Json.compact body) = some body.joined :=
    Json.read_render (by simp [Json.compact]) hbody
  rw [Json.joined_of_isWhole hwhole] at hread
  refine ⟨Json.render Json.compact body, ?_, hread⟩
  rw [Utf8.strict?_eq_some_iff]
  simp [Request.bodyBytes, postRequest]

/-- A request is a post of a JSON text in UTF-8, and the text is read as the payload that is
built for the notification. -/
theorem request_reads_as_payload {p : Provider} {env : Environment} {n : Notification}
    {answer : Answer} {r : Request} (h : Effect.request r ∈ (p.send env n answer).2.2) :
    r.method = "POST" ∧ r.contentType = "application/json" ∧
      ∃ body text, p.payload? n = some body ∧ Utf8.strict? r.bodyBytes = some text ∧
        Json.read text = some body := by
  obtain ⟨url, body, -, hbody, hr⟩ := (p.request_mem_send n answer env).mp h
  rcases Provider.exchange_cases hbody answer url with
    ⟨u, target, -, ⟨u', -, -, hsays⟩, -, hasked⟩ | ⟨u, f, -, -, -, -, hsilent⟩ |
    ⟨-, f, -, -, hsilent⟩
  · obtain rfl : r = postRequest target body := by simpa [hasked] using hr
    obtain ⟨-, rfl⟩ := Provider.payload?_eq_some_iff.mp hbody
    obtain ⟨text, hbytes, hread⟩ := read_bodyBytes_postRequest target
      (isFinite_payload p.config.title n) (isWhole_payload_iff.mpr hsays)
    exact ⟨rfl, rfl, _, text, hbody, hbytes, hread⟩
  · simp [hsilent] at hr
  · simp [hsilent] at hr

/-- A notification with marks, a backslash, a line feed, a NUL and a character above `\uffff`. -/
def markedNotification : Notification where
  endpoint := { name := "a\"b\\c\n\x00😀" }
  result := { success := false, conditions := [⟨"[BODY] == \"\t\"", false⟩] }

/-- The payload of this notification, written out. -/
def markedPayload : Json :=
  .object [("content", .text ""), ("embeds", .array [.object [
    ("title", .text ":helmet_with_white_cross: Gatus"),
    ("description", .text ("An alert for **a\"b\\c\n\x00😀** has been triggered due to " ++
      "having failed 3 time(s) in a row" : String)),
    ("color", .int 15158332),
    ("fields", .array [.object [
      ("name", .text "Condition results"),
      ("value", .text ":x: - \x60[BODY] == \"\t\"\x60\n"),
      ("inline", .bool false)]])]])]

theorem payload_markedNotification : payload "" markedNotification = markedPayload := by
  have hmessage : headline markedNotification ++ quotation markedNotification.alert =
      (("An alert for **a\"b\\c\n\x00😀** has been triggered due to " ++
        "having failed 3 time(s) in a row" : String) : Spelled) := by
    decide +kernel
  have hlines : conditionLines markedNotification.result.conditions =
      ":x: - \x60[BODY] == \"\t\"\x60\n" := by
    decide +kernel
  unfold payload embed conditionFields
  rw [hmessage, hlines]
  rfl

theorem request_reads_as_payload_marked :
    let p := Provider.ofConfig { webhookUrl := "http://h/" } .owned
    let r := postRequest "http://h/" markedPayload
    let answer := Answer.fault ⟨.connect, "refused"⟩
    Effect.request r ∈ (p.send Environment.empty markedNotification answer).2.2 ∧
      ∃ text, Utf8.strict? r.bodyBytes = some text ∧ Json.read text = some markedPayload := by
  intro p r answer
  have hdestination : destination "http://h/" = .ok "http://h/" := by decide +kernel
  have hbody : p.payload? markedNotification = some markedPayload :=
    Provider.payload?_eq_some_iff.mpr ⟨by decide +kernel, payload_markedNotification⟩
  have hr : r ∈ (Provider.exchange markedNotification answer "http://h/" markedPayload).1 := by
    rw [Provider.exchange_of_whole markedNotification answer (by decide +kernel), hdestination]
    exact List.mem_singleton.mpr rfl
  have hroute : (p.route Environment.empty markedNotification.endpoint.group).1 =
      .ok "http://h/" := by
    rw [Provider.route_ofConfig]
    rfl
  have hmem : Effect.request r ∈ (p.send Environment.empty markedNotification answer).2.2 :=
    (p.request_mem_send markedNotification answer Environment.empty).mpr
      ⟨_, _, hroute, hbody, hr⟩
  obtain ⟨-, -, body, text, hpayload, hbytes, hread⟩ := request_reads_as_payload hmem
  obtain rfl : markedPayload = body := by simpa [hbody] using hpayload
  exact ⟨hmem, text, hbytes, hread⟩

end AlertRelay.Discord
