import AlertRelay.Proofs.Command.Failures
import AlertRelay.Proofs.Command.Validation
import AlertRelay.Proofs.Json.Reading
import AlertRelay.Proofs.Settings.Processes

/-!
# What a validation says about a test

A validation and a test of the channel load the same settings in the same way, and do so
before anything else.  Each is a process of its own, so that they may show a set in different
orders; other than that, what a validation says is what a test comes up against, and only
the conditions of the test and the delivery are left to fail.
-/

namespace AlertRelay.Command

open AlertRelay.Text AlertRelay.Discord

/-! ## What a validation says -/

/-- What is said about valid settings: of how many overrides, if there is a channel. -/
def verdictText : Option Nat → String
  | none => "configuration is valid (no alert provider configured)\n"
  | some k => "configuration is valid (discord, " ++ Number.integerText k ++ " override(s))\n"

theorem verdictText_some (k : Nat) :
    verdictText (some k) =
      "configuration is valid (discord, " ++ Number.integerText k ++ " override(s))\n" :=
  rfl

theorem validMessage_eq (d : Option Config) :
    validMessage d = verdictText (d.map (·.overrides.length)) := by
  cases d <;> rfl

theorem prefix_verdictText_iff (k : Option Nat) :
    "configuration is valid (discord, ".toList <+: (verdictText k).toList ↔ k.isSome = true := by
  cases k with
  | none => decide +kernel
  | some k =>
      rw [verdictText_some, String.toList_append, String.toList_append, List.append_assoc]
      exact iff_of_true (List.prefix_append _ _) rfl

theorem verdictText_some_inj {j k : Nat} (h : verdictText (some j) = verdictText (some k)) :
    j = k := by
  have hlist := congrArg String.toList h
  simp only [verdictText_some, String.toList_append] at hlist
  have hdigits := List.append_cancel_left (List.append_cancel_right hlist)
  exact Int.ofNat_inj.mp (Json.integerText_inj (String.toList_injective hdigits))

theorem verdictText_injective : Function.Injective verdictText := by
  intro a b h
  have hsame : a.isSome = true ↔ b.isSome = true := by
    rw [← prefix_verdictText_iff, ← prefix_verdictText_iff, h]
  cases a with
  | none =>
      cases b with
      | none => rfl
      | some k => simp at hsame
  | some j =>
      cases b with
      | none => simp at hsame
      | some k => rw [verdictText_some_inj h]

theorem verdictText_ne_empty (k : Option Nat) : verdictText k ≠ "" := by
  cases k with
  | none => decide +kernel
  | some k =>
      intro h
      have hprefix := (prefix_verdictText_iff (some k)).mpr rfl
      rw [h] at hprefix
      exact absurd hprefix (by decide +kernel)

theorem escape_not_mem_verdictText (k : Option Nat) : '\x1b' ∉ (verdictText k).toList := by
  cases k with
  | none => decide +kernel
  | some k =>
      have hnumber : '\x1b' ∉ (Number.integerText k).toList := by
        intro h
        exact absurd ((Json.isWord_integerText k).2 _ h) (by decide)
      have hbefore : '\x1b' ∉ "configuration is valid (discord, ".toList := by decide +kernel
      have hbehind : '\x1b' ∉ " override(s))\n".toList := by decide +kernel
      simp only [verdictText_some, String.toList_append, List.mem_append, hnumber, hbefore, hbehind,
        or_self, not_false_eq_true]

theorem plain_verdictText (k : Option Nat) : plain (verdictText k) = verdictText k := by
  rw [plain, plainChars_eq_self (escape_not_mem_verdictText k), String.ofList_toList]

variable {s : Surroundings} {args args' : List Spelled} {config : Option Spelled}
  {name group : Spelled} {resolved : Bool} {conditions : List Spelled} {settings : Settings}
  {c : Config} {p : Provider} {n : Notification}

theorem loadFailure_silent (f : Settings.LoadFault) :
    (loadFailure f).stdout = "" ∧ (loadFailure f).effects = [] := by
  cases f <;> exact ⟨rfl, rfl⟩

theorem loadFailure_not_verdict (f : Settings.LoadFault) (k : Option Nat) :
    (loadFailure f).stdout ≠ verdictText k := by
  rw [(loadFailure_silent f).1]
  exact (verdictText_ne_empty k).symm

theorem validate_of_error {f : Settings.LoadFault} (hload : s.load config = .error f) :
    validate s config = loadFailure f := by
  simp only [validate, hload]

theorem sendTest_of_error {f : Settings.LoadFault} (hload : s.load config = .error f) :
    sendTest s config name group resolved conditions = loadFailure f := by
  simp only [sendTest, hload]

theorem validate_of_ok (hload : s.load config = .ok settings) :
    (validate s config).ending = .exit 0 ∧
      (validate s config).stdout = verdictText (settings.discord.map (·.overrides.length)) := by
  simp only [validate, hload, success, Spelled.shown_whole, validMessage_eq, plain_verdictText]
  exact ⟨trivial, trivial⟩

theorem buildProvider_of_isValid (hc : settings.discord = some c) (hvalid : c.isValid = true) :
    ∃ events,
      buildProvider settings.discord .owned = .ok (some (.ofConfig c .owned), events) := by
  simp only [buildProvider, hc, hvalid, if_true]
  exact ⟨_, rfl⟩

/-! ## What is left to fail -/

/-- Whether a report is of a notification that was to be delivered and was not: sending it
failed with a fault that is reported or not. -/
inductive FailsInDelivery (s : Surroundings) (p : Provider) (n : Notification) (r : Report) :
    Prop where
  | unreported (f : SendFault) (hsend : (p.send s.env n s.answer).1 = .error f)
      (hending : r.ending = .crash (.send f))
  | reported (f : SendFault) (message : Spelled) (log : String)
      (hsend : (p.send s.env n s.answer).1 = .error f) (hmessage : IsFailureMessage f message)
      (hending : r.ending = .exit 1) (hstderr : r.stderr = log ++ errorLine message)

theorem FailsInDelivery.after {r : Report} (h : FailsInDelivery s p n r) (log : String) :
    FailsInDelivery s p n (r.after log) := by
  cases h with
  | unreported f hsend hending => exact .unreported f hsend hending
  | reported f message before hsend hmessage hending hstderr =>
      refine .reported f message (log ++ before) hsend hmessage hending ?_
      change log ++ r.stderr = _
      rw [hstderr]
      exact String.append_assoc.symm

theorem testEnding_of_crash {f : SendFault} {crash : Crash}
    (h : (testEnding n (.error f)).1.ending = .crash crash) : crash = .send f := by
  cases f with
  | rejected status body => simp [testEnding, failure] at h
  | unreadable fault => simpa [testEnding] using h.symm
  | unencodable => simpa [testEnding] using h.symm
  | unwritable => simpa [testEnding] using h.symm
  | undelivered fault =>
      cases hkind : fault.kind.isOfExchange with
      | true => simp [testEnding, hkind, failure] at h
      | false => simpa [testEnding, hkind] using h.symm

theorem sendThrough_fails {log : List Log.Event → String} (hheld : heldBack? n = none)
    (hfails : (sendThrough s log p n).ending ≠ .exit 0) :
    FailsInDelivery s p n (sendThrough s log p n) := by
  cases hending : (sendThrough s log p n).ending with
  | exit code =>
      rcases sendThrough_ending hheld hending with
        ⟨rfl, -⟩ | ⟨rfl, f, message, text, hsend, hmessage, hstderr⟩
      · exact absurd hending hfails
      · exact .reported f message text hsend hmessage hending hstderr
  | crash crash =>
      obtain ⟨text, hreport⟩ := sendThrough_of_tried (s := s) (p := p) log hheld
      have htest : (testEnding n (p.send s.env n s.answer).1).1.ending = .crash crash := by
        rw [hreport] at hending
        exact hending
      cases hsend : (p.send s.env n s.answer).1 with
      | ok u => simp [hsend, testEnding, success] at htest
      | error f =>
          rw [hsend] at htest
          obtain rfl := testEnding_of_crash htest
          exact .unreported f hsend hending

/-- Behind valid settings a test fails at the first text that is no condition, or else in
the delivery. -/
theorem sendTest_fails (hload : s.load config = .ok settings)
    (hc : settings.discord = some c)
    (hfails : (sendTest s config name group resolved conditions).ending ≠ .exit 0) :
    (∃ text ∈ conditions, ¬IsCondition text ∧ ∃ log,
      sendTest s config name group resolved conditions =
        (misuseReport .sendTest (.badCondition text)).after log) ∨
    ∃ results : List ConditionResult, conditions = results.map ConditionResult.text ∧
      FailsInDelivery s (.ofConfig c .owned)
        (testNotification name group resolved c.defaultAlert results)
        (sendTest s config name group resolved conditions) := by
  rcases parseConditions_cases conditions with
    ⟨text, hmem, hbad, hparse⟩ | ⟨results, hresults, rfl⟩
  · obtain ⟨log, hrun⟩ := sendTest_of_discord name group resolved conditions hload hc
    rw [hparse] at hrun
    exact .inl ⟨text, hmem, hbad, log, hrun⟩
  · obtain ⟨log, hrun⟩ := sendTest_of_conditions name group resolved hload hc hresults
    rw [hrun] at hfails ⊢
    have hheld :
        heldBack? (testNotification name group resolved c.defaultAlert results) = none := by
      by_contra hback
      exact hfails (sendThrough_of_heldBack hback).1
    exact .inr ⟨results, rfl, (sendThrough_fails hheld hfails).after log⟩

/-! ## Both runs -/

/-- The surroundings of another process. -/
def Surroundings.inProcess (s : Surroundings) (residues : Value.Residues) : Surroundings :=
  { s with residues := residues }

theorem load_inProcess_related {residues : Value.Residues}
    (hgroups : Settings.TellApartAlike s.residues residues config s.env s.files) :
    Related (Settings.SameFault s.residues residues)
      (fun settings settings' => settings.discord.map (·.overrides.length) =
        settings'.discord.map (·.overrides.length))
      (s.load config) ((s.inProcess residues).load config) :=
  Settings.load_related hgroups

/-- The same fault of loading in two processes ends both in the same words. -/
theorem loadFailure_alike {residues residues' : Value.Residues} {f f' : Settings.LoadFault}
    (h : Settings.SameFault residues residues' f f') :
    ((loadFailure f).ending = .exit 1 →
      (loadFailure f').ending = .exit 1 ∧
        ∃ message message', Settings.SameMessage residues residues' message message' ∧
          (loadFailure f).stderr = errorLine message ∧
          (loadFailure f').stderr = errorLine message') ∧
    ((loadFailure f).ending ≠ .exit 1 → loadFailure f' = loadFailure f) := by
  cases h with
  | same =>
      refine ⟨fun hexit => ⟨hexit, ?_⟩, fun _ => rfl⟩
      cases f with
      | settings fault => exact ⟨fault.message, fault.message, .refl _, rfl, rfl⟩
      | _ => simp [loadFailure] at hexit
  | @settings fault fault' h =>
      exact ⟨fun _ => ⟨rfl, fault.message, fault'.message, h, rfl, rfl⟩,
        fun hexit => absurd rfl hexit⟩

/-- A test agrees with a validation of the same configuration in another process, if both tell
the groups of the overrides apart alike.  What ends the one early ends the other in the same
words, up to the order of sets, and where the configuration is valid only the conditions and
the delivery of a test can fail. -/
theorem run_agrees (hverdict : AsksForValidation s args config)
    (htest : AsksForTest s args' config name group resolved conditions)
    {residues : Value.Residues}
    (hgroups : Settings.TellApartAlike s.residues residues config s.env s.files) :
    let verdict := run s args
    let report := run (s.inProcess residues) args'
    (verdict.ending = .exit 1 →
      report.ending = .exit 1 ∧ report.stdout = "" ∧ report.effects = [] ∧
        ∃ message message', Settings.SameMessage s.residues residues message message' ∧
          verdict.stderr = errorLine message ∧ report.stderr = errorLine message') ∧
    (verdict.ending ≠ .exit 0 → verdict.ending ≠ .exit 1 → report = verdict) ∧
    (verdict.stdout = "configuration is valid (no alert provider configured)\n" →
      report.ending = .exit 1 ∧ report.stdout = "" ∧ report.effects = [] ∧
        ∃ log, report.stderr = log ++ "Error: no alert provider configured\n") ∧
    ∀ k : Nat,
      verdict.stdout =
        "configuration is valid (discord, " ++ Number.integerText k ++ " override(s))\n" →
      ∃ settings c events, (s.inProcess residues).load config = .ok settings ∧
        settings.discord = some c ∧ c.overrides.length = k ∧
        buildProvider settings.discord .owned = .ok (some (.ofConfig c .owned), events) ∧
        (report.ending ≠ .exit 0 →
          (∃ text ∈ conditions, ¬IsCondition text ∧
            ∃ log, report = (misuseReport .sendTest (.badCondition text)).after log) ∨
          ∃ results : List ConditionResult, conditions = results.map ConditionResult.text ∧
            FailsInDelivery (s.inProcess residues) (.ofConfig c .owned)
              (testNotification name group resolved c.defaultAlert results) report) := by
  intro verdict report
  have hvalidates : verdict = validate s config := run_of_asksForValidation hverdict
  have htests : report = sendTest (s.inProcess residues) config name group resolved conditions :=
    run_of_asksForTest ⟨htest.noQuestion, htest.arguments⟩
  have hrelated := load_inProcess_related hgroups
  rw [hvalidates, htests]
  generalize hload : s.load config = loaded at hrelated
  generalize hload' : (s.inProcess residues).load config = loaded' at hrelated
  cases hrelated with
  | @error f f' hfault =>
      have hsilent := loadFailure_not_verdict f
      obtain ⟨hexits, hcrashes⟩ := loadFailure_alike hfault
      rw [validate_of_error hload, sendTest_of_error hload']
      refine ⟨fun hexit => ?_, fun _ => hcrashes, fun h => absurd h (hsilent none),
        fun k h => absurd h (hsilent (some k))⟩
      obtain ⟨hexit', hwords⟩ := hexits hexit
      exact ⟨hexit', (loadFailure_silent f').1, (loadFailure_silent f').2, hwords⟩
  | @ok settings settings' hlength =>
      obtain ⟨hzero, hstdout⟩ := validate_of_ok hload
      refine ⟨fun hexit => ?_, fun hexit => absurd hzero hexit, fun h => ?_, fun k h => ?_⟩
      · simp [hzero] at hexit
      · have hnone : settings.discord.map (·.overrides.length) = none :=
          verdictText_injective (hstdout.symm.trans h)
        have hdiscord : settings'.discord = none :=
          Option.map_eq_none_iff.mp (hlength.symm.trans hnone)
        obtain ⟨log, hrun⟩ := sendTest_of_no_discord name group resolved conditions hload' hdiscord
        rw [hrun]
        refine ⟨rfl, rfl, rfl, log, ?_⟩
        have hline : errorLine "no alert provider configured" =
            "Error: no alert provider configured\n" := by decide +kernel
        rw [Report.after, failure, hline]
      · have hsome : settings.discord.map (·.overrides.length) = some k :=
          verdictText_injective (hstdout.symm.trans h)
        obtain ⟨c, hc, hk⟩ := Option.map_eq_some_iff.mp (hlength.symm.trans hsome)
        have hvalid : c.isValid = true := Settings.load_isValid hload' hc
        obtain ⟨events, hbuilt⟩ := buildProvider_of_isValid hc hvalid
        exact ⟨settings', c, events, rfl, hc, hk, hbuilt, sendTest_fails hload' hc⟩

/-! ## Runs that are seen through -/

/-- Residues with which the text `a` is put behind `b`, before which it stands otherwise. -/
def turnedResidues : Value.Residues := fun v => if v.sameKey (.text "a") then 1 else 0

/-- A set in the place of an alert. -/
def setAlertSurroundings : Surroundings :=
  oneFileSurroundings (Settings.utf8
    "alerting: \x7bdiscord: \x7bdefault-alert: !!set \x7ba, b\x7d\x7d\x7d".toList)

def fileTestArguments : List Spelled := ["send-test", "--name", "api", "--config", "c.yaml"]

theorem run_agrees_turned :
    let s := setAlertSurroundings
    let t := unreachableSurroundings
    let n := testNotification "api" "" false none []
    let verdict := run s oneFileArguments
    let refused := run (s.inProcess turnedResidues) fileTestArguments
    let failed := run (t.inProcess turnedResidues) ["send-test", "--name", "api"]
    AsksForValidation s oneFileArguments (some "c.yaml") ∧
      AsksForTest s fileTestArguments (some "c.yaml") "api" "" false [] ∧
      Settings.TellApartAlike s.residues turnedResidues (some "c.yaml") s.env s.files ∧
      verdict.ending = .exit 1 ∧ refused.ending = .exit 1 ∧
      (∃ message message', Settings.SameMessage s.residues turnedResidues message message' ∧
        verdict.stderr = errorLine message ∧ refused.stderr = errorLine message') ∧
      AsksForValidation t ["validate"] none ∧
      AsksForTest t ["send-test", "--name", "api"] none "api" "" false [] ∧
      Settings.TellApartAlike t.residues turnedResidues none t.env t.files ∧
      failed.ending = .exit 1 ∧
      FailsInDelivery (t.inProcess turnedResidues)
        (.ofConfig { webhookUrl := "http://h/" } .owned) n failed := by
  intro s t n verdict refused failed
  have halike {s : Surroundings} {config : Option Spelled}
      (hx : Settings.overridesIn s.residues config s.env s.files = .ok [])
      (hy : Settings.overridesIn turnedResidues config s.env s.files = .ok []) :
      Settings.TellApartAlike s.residues turnedResidues config s.env s.files := by
    intro overrides overrides' hfound hfound'
    rw [← Except.ok.inj (hx.symm.trans hfound), ← Except.ok.inj (hy.symm.trans hfound')]
  have hverdict : AsksForValidation s oneFileArguments (some "c.yaml") :=
    ⟨by decide +kernel, by decide +kernel⟩
  have htest : AsksForTest s fileTestArguments (some "c.yaml") "api" "" false [] :=
    ⟨by decide +kernel, by decide +kernel⟩
  have hgroups : Settings.TellApartAlike s.residues turnedResidues (some "c.yaml") s.env s.files :=
    halike (by decide +kernel) (by decide +kernel)
  have hone : verdict.ending = .exit 1 := by decide +kernel
  obtain ⟨hrefused, -⟩ := run_agrees hverdict htest hgroups
  obtain ⟨hexit, -, -, hwords⟩ := hrefused hone
  have hverdict' : AsksForValidation t ["validate"] none := ⟨by decide +kernel, by decide +kernel⟩
  have htest' : AsksForTest t ["send-test", "--name", "api"] none "api" "" false [] :=
    ⟨by decide +kernel, by decide +kernel⟩
  have hgroups' : Settings.TellApartAlike t.residues turnedResidues none t.env t.files :=
    halike (by decide +kernel) (by decide +kernel)
  have hstdout : (run t ["validate"]).stdout =
      "configuration is valid (discord, 0 override(s))\n" := by decide +kernel
  have hload : (t.inProcess turnedResidues).load none = .ok acceptingSettings := by decide +kernel
  have hfailed : failed.ending = .exit 1 := by decide +kernel
  obtain ⟨-, -, -, hvalid⟩ := run_agrees hverdict' htest' hgroups'
  obtain ⟨settings, c, events, hload', hc, -, -, hfails⟩ := hvalid 0 hstdout
  obtain rfl : acceptingSettings = settings := Except.ok.inj (hload.symm.trans hload')
  obtain rfl : { webhookUrl := "http://h/" } = c := Option.some.inj hc
  have hnonzero : failed.ending ≠ .exit 0 := by simp [hfailed]
  refine ⟨hverdict, htest, hgroups, hone, hexit, hwords, hverdict', htest', hgroups', hfailed, ?_⟩
  rcases hfails hnonzero with ⟨text, hmem, -⟩ | ⟨results, hresults, hdelivery⟩
  · simp at hmem
  · obtain rfl : results = [] := List.map_eq_nil_iff.mp hresults.symm
    exact hdelivery

/-- A group that is a set, and one that is the literal of that set. -/
def setGroupSurroundings : Surroundings :=
  oneFileSurroundings (Settings.utf8
    ("alerting: \x7bdiscord: \x7bwebhook-url: http://h/, overrides: [" ++
      "\x7bgroup: !!set \x7ba, b\x7d, webhook-url: u\x7d, " ++
      "\x7bgroup: \"\x7b'a', 'b'\x7d\", webhook-url: u\x7d]\x7d\x7d").toList)

/-- Two processes show a set in different orders; so two groups may be one in the first of them
alone.  A threshold that is too long to be written is found by neither. -/
theorem run_agrees_not_in_words :
    let s := setAlertSurroundings
    let t := setGroupSurroundings
    let alert : Alert := { failureThreshold := some (Nat.pow 10 4300) }
    let c : Config := { webhookUrl := "http://h/", defaultAlert := some alert }
    let log : List Log.Event → String := fun _ => ""
    (run s oneFileArguments).ending = .exit 1 ∧
      (run s oneFileArguments).stderr =
        "Error: Alert configuration must be a mapping, got: \x7b'a', 'b'\x7d\n" ∧
      (run (s.inProcess turnedResidues) fileTestArguments).stderr =
        "Error: Alert configuration must be a mapping, got: \x7b'b', 'a'\x7d\n" ∧
      (run t oneFileArguments).ending = .exit 1 ∧
      (run (t.inProcess turnedResidues) fileTestArguments).ending = .exit 0 ∧
      c.isValid = true ∧
      (sendThrough acceptingSurroundings log (.ofConfig c .owned)
        (testNotification "api" "" false c.defaultAlert [])).ending =
          .crash (.send .unwritable) := by
  refine ⟨?_, ?_, ?_, ?_, ?_, ?_, ?_⟩ <;> decide +kernel

end AlertRelay.Command
