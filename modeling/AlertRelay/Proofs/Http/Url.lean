import Mathlib.Data.List.Basic
import AlertRelay.Http.Exchange
import AlertRelay.Proofs.Text.Parts

/-!
# Which URLs are accepted

A text is refused as a URL for its length, for a control character, for its
host, for its port, or for a path that could be mistaken for something else.
Nothing else about it matters: whether its scheme is served is a question that
only an accepted URL is asked.
-/

namespace AlertRelay.Http

open AlertRelay.Number AlertRelay.Text

/-! ## Hosts -/

def isBracketed (host : List Char) : Bool := host.head? == some '[' && host.getLast? == some ']'

/-- What a host has to satisfy: one that looks like an address has to be one,
and a name with other characters than those of ASCII has to have a form in ASCII. -/
structure HostAccepted (host : List Char) : Prop where
  decimal : isDecimalForm host = true → isDecimalAddress host = true
  hexadecimal : isBracketed host = true → isHexAddress (host.drop 1).dropLast = true
  name : isBracketed host = false → (∃ c ∈ host, 0x80 ≤ c.toNat) →
    ∃ ascii, Name.asciiName? host = some ascii

theorem isDecimalForm_chars {host : List Char} (h : isDecimalForm host = true) {c : Char}
    (hc : c ∈ host) : c = '.' ∨ isAsciiDigit c = true := by
  simp only [isDecimalForm, Bool.and_eq_true, List.all_eq_true] at h
  rcases mem_of_mem_splitOn '.' hc with rfl | ⟨part, hpart, hmem⟩
  · exact .inl rfl
  · exact .inr ((h.2 part hpart).2 c hmem)

theorem toNat_lt_of_isDecimalForm {host : List Char} (h : isDecimalForm host = true) {c : Char}
    (hc : c ∈ host) : c.toNat < 0x80 ∧ c ≠ '[' := by
  rcases isDecimalForm_chars h hc with rfl | hdigit
  · decide
  · simp only [isAsciiDigit, Bool.and_eq_true, decide_eq_true_eq, Char.le_def] at hdigit
    have hle : c.toNat ≤ 0x39 := hdigit.2
    refine ⟨by omega, ?_⟩
    rintro rfl
    simp at hle

theorem isBracketed_of_isDecimalForm {host : List Char} (h : isDecimalForm host = true) :
    isBracketed host = false := by
  cases host with
  | nil => rfl
  | cons c host =>
      have hne := (toNat_lt_of_isDecimalForm h List.mem_cons_self).2
      simp [isBracketed, hne]

theorem hostAccepted_nil : HostAccepted [] where
  decimal h := by simp [isDecimalForm] at h
  hexadecimal h := by simp [isBracketed] at h
  name _ h := by simp at h

theorem hostAccepted_of_isDecimalForm {host : List Char} (h : isDecimalForm host = true) :
    HostAccepted host ↔ isDecimalAddress host = true := by
  have hbracket := isBracketed_of_isDecimalForm h
  refine ⟨fun accepted => accepted.decimal h, fun address => ⟨fun _ => address, ?_, ?_⟩⟩
  · simp [hbracket]
  · rintro - ⟨c, hc, hle⟩
    have := (toNat_lt_of_isDecimalForm h hc).1
    omega

theorem hostAccepted_of_isBracketed {host : List Char} (h : isBracketed host = true) :
    HostAccepted host ↔ isHexAddress (host.drop 1).dropLast = true := by
  refine ⟨fun accepted => accepted.hexadecimal h, fun address => ⟨?_, fun _ => address, ?_⟩⟩
  · intro hdecimal
    simp [isBracketed_of_isDecimalForm hdecimal] at h
  · simp [h]

theorem hostAccepted_of_name {host : List Char} (hdecimal : ¬isDecimalForm host = true)
    (hbracket : isBracketed host = false) :
    HostAccepted host ↔
      ((∃ c ∈ host, 0x80 ≤ c.toNat) → ∃ ascii, Name.asciiName? host = some ascii) :=
  ⟨fun accepted => accepted.name hbracket,
    fun name => ⟨fun h => absurd h hdecimal, by simp [hbracket], fun _ => name⟩⟩

/-- A host has a form for requests exactly when it is accepted. -/
theorem exists_normalHost_iff (host : List Char) :
    (∃ h, normalHost host = .ok h) ↔ HostAccepted host := by
  by_cases hempty : host = []
  · subst hempty
    exact ⟨fun _ => hostAccepted_nil, fun _ => ⟨[], rfl⟩⟩
  have hne : host.isEmpty = false := by simpa using hempty
  by_cases hdecimal : isDecimalForm host = true
  · rw [hostAccepted_of_isDecimalForm hdecimal]
    simp only [normalHost, hne, hdecimal, if_true, Bool.false_eq_true, if_false]
    split <;> simp_all
  have hmarks : (host.head? == some '[' && host.getLast? == some ']') = isBracketed host := rfl
  simp only [normalHost, hne, hdecimal, hmarks, Bool.false_eq_true, if_false]
  cases hbracket : isBracketed host with
  | true =>
      rw [hostAccepted_of_isBracketed hbracket]
      simp only [if_true]
      split <;> simp_all
  | false =>
      rw [hostAccepted_of_name hdecimal hbracket]
      simp only [Bool.false_eq_true, if_false]
      split
      · rename_i hascii
        have hnone : ¬∃ c ∈ host, 0x80 ≤ c.toNat := by simpa using hascii
        exact ⟨fun _ h => absurd h hnone, fun _ => ⟨_, rfl⟩⟩
      · rename_i hother
        have hsome : ∃ c ∈ host, 0x80 ≤ c.toNat := by simpa using hother
        cases Name.asciiName? host <;> simp [hsome]

theorem intercalate_eq_nil {sep : Char} {parts : List (List Char)}
    (h : [sep].intercalate parts = []) : parts = [] ∨ parts = [[]] := by
  cases parts with
  | nil => exact .inl rfl
  | cons part parts =>
      cases parts with
      | nil => exact .inr (by simpa using h)
      | cons next parts => simp [List.intercalate] at h

theorem asciiLabel?_ne_nil {label sent : List Char} (h : Name.asciiLabel? label = some sent)
    (hlabel : label ≠ []) : sent ≠ [] := by
  simp only [Name.asciiLabel?, Option.ite_none_right_eq_some, Option.some.injEq] at h
  rw [← h.2]
  split
  · exact hlabel
  · simp [Name.encodedMark]

theorem asciiName?_ne_nil {name ascii : List Char} (h : Name.asciiName? name = some ascii) :
    ascii ≠ [] := by
  have hparts : (Name.lowerName name).splitOnP Name.isDot ≠ [] := List.splitOnP_ne_nil _ _
  revert h hparts
  generalize hsplit : (Name.lowerName name).splitOnP Name.isDot = parts
  intro h hparts
  simp only [Name.asciiName?, hsplit] at h
  cases hopen : parts.getLast? == some [] with
  | true =>
      simp only [hopen, if_true] at h
      split at h
      · simp at h
      · obtain ⟨-, rfl⟩ := by simpa using h
        simp
  | false =>
      simp only [hopen, Bool.false_eq_true, if_false] at h
      split at h
      · simp at h
      · rename_i sent hsent
        obtain ⟨-, rfl⟩ := by simpa using h
        intro hnil
        obtain ⟨part, more, rfl⟩ := List.exists_cons_of_ne_nil hparts
        obtain ⟨first, hfirst, rest, hrest, rfl⟩ := by
          simpa [List.mapM_cons, Option.bind_eq_some_iff] using hsent
        rcases intercalate_eq_nil hnil with hnone | hone
        · simp at hnone
        · obtain ⟨rfl, rfl⟩ : first = [] ∧ rest = [] := by simpa using hone
          cases more with
          | nil =>
              have hpart : part ≠ [] := by simpa using hopen
              exact asciiLabel?_ne_nil hfirst hpart rfl
          | cons next more =>
              simp [List.mapM_cons, Option.bind_eq_some_iff] at hrest

theorem percentEncode_eq_nil_iff {isSafe : Char → Bool} {s : List Char} :
    percentEncode isSafe s = [] ↔ s = [] := by
  cases s with
  | nil => simp [percentEncode]
  | cons c s =>
      have hchar : percentChar c ≠ [] := by
        have hbytes : String.utf8EncodeChar c ≠ [] := by
          intro h
          have hlength := String.length_utf8EncodeChar c
          have hpos := c.utf8Size_pos
          simp [h] at hlength
          omega
        obtain ⟨b, bs, hb⟩ := List.exists_cons_of_ne_nil hbytes
        simp [percentChar, hb, percentByte]
      simp only [percentEncode, List.flatMap_cons, List.append_eq_nil_iff, reduceCtorEq, iff_false,
        not_and]
      split <;> simp [hchar]

theorem normalHost_eq_nil_iff {host h : List Char} (hhost : normalHost host = .ok h) :
    h = [] ↔ host = [] := by
  constructor
  · rintro rfl
    by_contra hne
    have hempty : host.isEmpty = false := by simpa using hne
    simp only [normalHost, hempty, Bool.false_eq_true, if_false] at hhost
    split at hhost
    · split at hhost <;> simp_all
    · split at hhost
      · split at hhost
        · rename_i hhex
          obtain hinner : (host.drop 1).dropLast = [] := by simpa using hhost
          rw [hinner] at hhex
          revert hhex
          decide
        · simp at hhost
      · split at hhost
        · obtain ⟨c, rest, rfl⟩ := List.exists_cons_of_ne_nil hne
          simp [percentEncode_eq_nil_iff] at hhost
        · split at hhost
          · rename_i hname
            obtain rfl := by simpa using hhost
            exact asciiName?_ne_nil hname rfl
          · simp at hhost
  · rintro rfl
    simpa [normalHost] using hhost.symm

/-! ## Parts -/

namespace Url

/-- A text taken apart, before any part is checked. -/
structure Parts where
  scheme : List Char
  user : List Char
  host : List Char
  port : List Char
  path : List Char
  query : Option (List Char)
  fragment : Option (List Char)

def partsOf (s : List Char) : Parts :=
  let (scheme, rest) := splitScheme s
  let (authority, rest) := splitAuthority rest
  let (rest, fragment) := splitMark '#' rest
  let (path, query) := splitMark '?' rest
  let (user, rest) := splitUser authority
  let (host, port) := splitHost rest
  { scheme, user, host, port, path, query, fragment }

def Parts.startsWithPath (p : Parts) : Prop :=
  p.scheme = [] ∧ p.user = [] ∧ p.host = [] ∧ p.port = []

/-- What a text has to satisfy to be taken as a URL. -/
structure Accepted (s : String) : Prop where
  short : s.toList.length ≤ maxLength
  printable : ∀ c ∈ s.toList, isControl c = false
  host : HostAccepted (partsOf s.toList).host
  port : (partsOf s.toList).port = [] ∨ ∃ n, integer? .decimal (partsOf s.toList).port = some n
  path : (partsOf s.toList).startsWithPath →
    ¬['/', '/'] <+: (partsOf s.toList).path ∧ ¬[':'] <+: (partsOf s.toList).path

theorem drop_takeWhile_head {p : Char → Bool} {s : List Char} {c : Char}
    (h : (s.drop (s.takeWhile p).length).head? = some c) : p c = false := by
  induction s with
  | nil => simp at h
  | cons x s ih =>
      cases hx : p x with
      | false =>
          obtain rfl : x = c := by simpa [hx] using h
          exact hx
      | true => exact ih (by simpa [hx] using h)

theorem splitMark_fst_of_head (mark : Char) {c : Char} {s : List Char} (h : s.head? = some c) :
    if c = mark then (splitMark mark s).1 = [] else (splitMark mark s).1.head? = some c := by
  obtain ⟨rest, rfl⟩ := List.head?_eq_some_iff.mp h
  have hfst : (splitMark mark (c :: rest)).1 = (c :: rest).takeWhile (· != mark) := by
    simp only [splitMark]
    split <;> rfl
  rw [hfst]
  split <;> simp_all

/-- Behind an authority stands a path with a slash, or none. -/
theorem path_of_authority (s : List Char) :
    (partsOf s).user = [] ∧ (partsOf s).host = [] ∧ (partsOf s).port = [] ∨
      (partsOf s).path = [] ∨ (partsOf s).path.head? = some '/' := by
  simp only [partsOf]
  generalize (splitScheme s).2 = t
  by_cases hslashes : ∃ r, t = '/' :: '/' :: r
  · obtain ⟨r, rfl⟩ := hslashes
    right
    simp only [splitAuthority]
    generalize hrest : r.drop (r.takeWhile fun c => c != '/' && c != '?' && c != '#').length = rest
    cases hhead : rest.head? with
    | none =>
        obtain rfl : rest = [] := List.head?_eq_none_iff.mp hhead
        exact .inl rfl
    | some c =>
        have hstop : c = '/' ∨ c = '?' ∨ c = '#' := by
          have hfalse := drop_takeWhile_head (hrest ▸ hhead)
          by_contra hother
          simp_all
        have hfragment := splitMark_fst_of_head '#' hhead
        rcases hstop with rfl | rfl | rfl
        · exact .inr (splitMark_fst_of_head '?' hfragment)
        · exact .inl (splitMark_fst_of_head '?' hfragment)
        · have hnone : (splitMark '#' rest).1 = [] := hfragment
          rw [hnone]
          exact .inl rfl
  · left
    have hnone : (splitAuthority t).1 = [] := by
      unfold splitAuthority
      split
      · simp_all
      · rfl
    rw [hnone]
    exact ⟨rfl, rfl, rfl⟩

theorem exists_normalPort_iff (scheme port : List Char) :
    (∃ n, normalPort scheme port = .ok n) ↔
      port = [] ∨ ∃ n, integer? .decimal port = some n := by
  cases port with
  | nil => simp [normalPort]
  | cons c port => cases hn : integer? .decimal (c :: port) <;> simp [normalPort, hn]

theorem exists_hostOf_iff (host : List Char) :
    (∃ h, hostOf host = .ok h) ↔ HostAccepted host := by
  rw [← exists_normalHost_iff]
  cases hh : normalHost host <;> simp [hostOf, hh]

/-- Taking a text apart fails exactly when one of the checked parts is refused. -/
theorem exists_ofParts_iff (s : List Char) :
    (∃ u, ofParts s = .ok u) ↔
      ∃ host port, hostOf (partsOf s).host = .ok host ∧
        normalPort (partsOf s).scheme (partsOf s).port = .ok port ∧
        checkPath (!(partsOf s).scheme.isEmpty)
          (!(percentEncode isUserSafe (partsOf s).user).isEmpty || !host.isEmpty || port.isSome)
          (partsOf s).path = .ok () := by
  have hparts : ofParts s = (do
      let host ← hostOf (partsOf s).host
      let port ← normalPort (partsOf s).scheme (partsOf s).port
      let hasScheme := !(partsOf s).scheme.isEmpty
      let user := percentEncode isUserSafe (partsOf s).user
      let hasAuthority := !user.isEmpty || !host.isEmpty || port.isSome
      checkPath hasScheme hasAuthority (partsOf s).path
      let path := if hasScheme || hasAuthority then dropDots (partsOf s).path else (partsOf s).path
      return {
        scheme := (partsOf s).scheme.map lowerCase, user, host, port
        path := percentEncode isPathSafe path
        query := (partsOf s).query.map (percentEncode isQuerySafe)
        fragment := (partsOf s).fragment.map (percentEncode isFragmentSafe) }) := rfl
  rw [hparts]
  cases hostOf (partsOf s).host with
  | error f => simp [bind, Except.bind]
  | ok host =>
      cases normalPort (partsOf s).scheme (partsOf s).port with
      | error f => simp [bind, Except.bind]
      | ok port =>
          simp only [bind, Except.bind, pure, Except.pure]
          split <;> simp_all

theorem hostOf_eq_ok {host h : List Char} (hh : hostOf host = .ok h) : normalHost host = .ok h := by
  cases hn : normalHost host <;> simp_all [hostOf]

theorem normalPort_eq_none_iff {port : List Char} {n : Option Int}
    (h : normalPort [] port = .ok n) : n = none ↔ port = [] := by
  cases port with
  | nil => simp_all [normalPort]
  | cons c port =>
      cases hn : integer? .decimal (c :: port) with
      | none => simp [normalPort, hn] at h
      | some i =>
          have himplied : impliedPorts.lookup (String.ofList []) = none := by decide
          obtain rfl : some i = n := by simpa [normalPort, hn, himplied] using h
          simp

/-- In their one form the parts before the path are empty just when they were. -/
theorem startsWithPath_iff {p : Parts} {host : List Char} {port : Option Int}
    (hhost : hostOf p.host = .ok host) (hport : normalPort p.scheme p.port = .ok port) :
    p.startsWithPath ↔
      (!p.scheme.isEmpty) = false ∧
        (!(percentEncode isUserSafe p.user).isEmpty || !host.isEmpty || port.isSome) = false := by
  have hhostNil := normalHost_eq_nil_iff (hostOf_eq_ok hhost)
  by_cases hscheme : p.scheme = []
  · rw [hscheme] at hport
    have hportNone := normalPort_eq_none_iff hport
    simp [Parts.startsWithPath, hscheme, percentEncode_eq_nil_iff, hhostNil, hportNone, and_assoc]
  · simp [Parts.startsWithPath, hscheme]

theorem checkPath_eq_ok_iff {hasScheme hasAuthority : Bool} {path : List Char}
    (h : hasAuthority = true → path = [] ∨ path.head? = some '/') :
    checkPath hasScheme hasAuthority path = .ok () ↔
      (hasScheme = false ∧ hasAuthority = false → ¬['/', '/'] <+: path ∧ ¬[':'] <+: path) := by
  have hslash : (hasAuthority && !path.isEmpty && path.head? != some '/') = false := by
    cases hasAuthority with
    | false => rfl
    | true => rcases h rfl with rfl | hhead <;> simp_all
  simp only [checkPath, hslash, Bool.false_eq_true, if_false]
  cases hasScheme <;> cases hasAuthority <;> simp
  match path with
  | [] => simp
  | [c] => simp [eq_comm]
  | c :: d :: path => by_cases hc : c = '/' <;> by_cases hd : d = '/' <;> simp_all [eq_comm]

/-- The path is checked for what it could be mistaken for, and for nothing else:
behind an authority it cannot be wrong. -/
theorem checkPath_partsOf_iff {s : List Char} {host : List Char} {port : Option Int}
    (hhost : hostOf (partsOf s).host = .ok host)
    (hport : normalPort (partsOf s).scheme (partsOf s).port = .ok port) :
    checkPath (!(partsOf s).scheme.isEmpty)
        (!(percentEncode isUserSafe (partsOf s).user).isEmpty || !host.isEmpty || port.isSome)
        (partsOf s).path = .ok () ↔
      ((partsOf s).startsWithPath →
        ¬['/', '/'] <+: (partsOf s).path ∧ ¬[':'] <+: (partsOf s).path) := by
  rw [startsWithPath_iff hhost hport]
  apply checkPath_eq_ok_iff
  intro hauthority
  rcases path_of_authority s with ⟨huser, hnone, hempty⟩ | hpath
  · have hnil := (normalHost_eq_nil_iff (hostOf_eq_ok hhost)).mpr hnone
    obtain rfl : none = port := by simpa [hempty, normalPort] using hport
    simp [huser, hnil, percentEncode] at hauthority
  · exact hpath

/-- A text is taken as a URL exactly when it is accepted. -/
theorem exists_parse_iff (s : String) : (∃ u, parse s = .ok u) ↔ Accepted s := by
  by_cases hshort : s.toList.length ≤ maxLength
  case neg =>
    have hlong : maxLength < s.toList.length := by omega
    exact ⟨fun ⟨u, h⟩ => by simp only [parse, hlong, if_true, reduceCtorEq] at h,
      fun h => absurd h.short hshort⟩
  have hnotLong : ¬maxLength < s.toList.length := by omega
  cases hcontrol : s.toList.find? isControl with
  | some c =>
      have hc := List.find?_some hcontrol
      have hmem := List.mem_of_find?_eq_some hcontrol
      refine ⟨fun ⟨u, h⟩ => ?_, fun h => ?_⟩
      · simp only [parse, hnotLong, if_false, hcontrol, reduceCtorEq] at h
      · simp [h.printable c hmem] at hc
  | none =>
      have hprintable : ∀ c ∈ s.toList, isControl c = false := by simpa using hcontrol
      have hparse : parse s = ofParts s.toList := by
        simp only [parse, hnotLong, if_false, hcontrol]
      rw [hparse, exists_ofParts_iff]
      constructor
      · rintro ⟨host, port, hhost, hport, hpath⟩
        exact ⟨hshort, hprintable, (exists_hostOf_iff _).mp ⟨host, hhost⟩,
          (exists_normalPort_iff _ _).mp ⟨port, hport⟩,
          (checkPath_partsOf_iff hhost hport).mp hpath⟩
      · intro h
        obtain ⟨host, hhost⟩ := (exists_hostOf_iff _).mpr h.host
        obtain ⟨port, hport⟩ :=
          (exists_normalPort_iff (partsOf s.toList).scheme _).mpr h.port
        exact ⟨host, port, hhost, hport, (checkPath_partsOf_iff hhost hport).mpr h.path⟩

end Url

/-! ## Destinations -/

/-- A text that is no URL is the only one whose request cannot even be formed. -/
theorem destination_of_not_accepted {url : String} (h : ¬Url.Accepted url) :
    ∃ f, destination url = .error f ∧ f.kind = .invalidUrl := by
  cases hparse : Url.parse url with
  | ok u => exact absurd ((Url.exists_parse_iff url).mp ⟨u, hparse⟩) h
  | error f => exact ⟨⟨.invalidUrl, f.message⟩, by simp [destination, hparse], rfl⟩

/-- An accepted URL is served, or its scheme is not. -/
theorem destination_of_accepted {url : String} {f : Fault} (h : Url.Accepted url)
    (hf : destination url = .error f) : f.kind = .unsupportedProtocol := by
  obtain ⟨u, hparse⟩ := (Url.exists_parse_iff url).mpr h
  simp only [destination, hparse] at hf
  split at hf
  · obtain rfl := Except.error.inj hf
    rfl
  · split at hf
    · simp at hf
    · obtain rfl := Except.error.inj hf
      rfl

end AlertRelay.Http
