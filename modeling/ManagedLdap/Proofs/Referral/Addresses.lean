/-
# ManagedLdap.Proofs.Referral.Addresses -- a referral leads where its address was made for

A server that refers its client elsewhere puts an address together: the scheme, the host and
perhaps the port of another server, a slash, and the name of an entry, percent-encoded.  The client
takes it apart with a reader for addresses of any kind, which cuts at question marks and number
signs, resolves dot segments and escapes what no path may hold; then slashes are trimmed off and
escapes undone.  None of that may touch the name.

What keeps it whole is that a written name is one segment in which nothing has a meaning of its
own, and that it is no dot segment: the sign between an attribute and its value is escaped, so a
digit stands in it (`isDot_of_written`).  The address without a name is that of the server, so
following a referral goes to where the same text would be connected to (`parse_address`).
-/
import Mathlib.Data.Bool.AllAny
import Mathlib.Data.List.TakeWhile
import ManagedLdap.Proofs.Ldap.PlainAddress
import ManagedLdap.Proofs.Text.Decimal
import ManagedLdap.Proofs.Text.Percent

namespace ManagedLdap

set_option autoImplicit false

open Text (isUnreserved PercentWritten encodeUtf8)

/-! ## Servers and their addresses -/

/-- The schemes that a directory is reached by. -/
inductive DirectoryScheme where
  | ldap
  | ldaps
  deriving DecidableEq, Repr

namespace DirectoryScheme

def text : DirectoryScheme → String
  | .ldap => "ldap"
  | .ldaps => "ldaps"

/-- The port of a server that names none. -/
def port : DirectoryScheme → UInt16
  | .ldap => 389
  | .ldaps => 636

end DirectoryScheme

/-- The name of a host: letters, digits, hyphens and points. -/
structure HostName where
  text : String
  ne_empty : text ≠ ""
  plain : ∀ c ∈ text.toList, c.isAlphanum = true ∨ c = '-' ∨ c = '.'

/-- A directory server as an address names it. -/
structure ServerAddress where
  scheme : DirectoryScheme
  host : HostName
  /-- The port; none where the address leaves it to the scheme. -/
  port : Option UInt16

namespace ServerAddress

/-- What an address says of the port. -/
def portText (s : ServerAddress) : String :=
  match s.port with
  | none => ""
  | some port => ":" ++ toString port.toNat

/-- The address of a server as it is written. -/
def text (s : ServerAddress) : String := s.scheme.text ++ "://" ++ s.host.text ++ s.portText

/-- The same server with its port. -/
def filled (s : ServerAddress) : ServerAddress :=
  { s with port := some (s.port.getD s.scheme.port) }

end ServerAddress

/-- What may follow the name of an entry in an address. -/
def queryText : Option String → String
  | none => ""
  | some query => "?" ++ query

/-! ## Characters without a meaning -/

namespace Url

/-- A character that reading an address passes through wherever it stands. -/
structure Inert (c : Char) : Prop where
  counts : isMargin c = false
  allowed : isForbiddenInHost c = false
  printed : isControl c = false
  bare : isPathEscaped c = false

theorem inert_of_isUnreserved {c : Char} (unreserved : isUnreserved c = true) : Inert c := by
  have table : ∀ n < 0x7F, isUnreserved (Char.ofNat n) = true →
      isMargin (Char.ofNat n) = false ∧ isForbiddenInHost (Char.ofNat n) = false ∧
        isControl (Char.ofNat n) = false ∧ isPathEscaped (Char.ofNat n) = false := by
    decide +kernel
  have range := Text.range_of_isUnreserved unreserved
  have row := table c.toNat (by omega)
  rw [Char.ofNat_toNat] at row
  obtain ⟨counts, allowed, printed, bare⟩ := row unreserved
  exact ⟨counts, allowed, printed, bare⟩

theorem inert_percent : Inert '%' := ⟨rfl, rfl, rfl, rfl⟩

/-- What may not stand in a host stands nowhere among inert characters. -/
theorem notMem_of_inert {cs : List Char} (inert : ∀ c ∈ cs, Inert c) {d : Char}
    (forbidden : isForbiddenInHost d = true) : d ∉ cs := by
  intro among
  rw [(inert d among).allowed] at forbidden
  cases forbidden

theorem percentEncode_of_inert {cs : List Char} {escaped : Char → Bool}
    (bare : ∀ c ∈ cs, escaped c = false) :
    Text.percentEncode escaped (String.ofList cs) = String.ofList cs := by
  rw [Text.percentEncode, String.toList_ofList]
  congr 1
  induction cs with
  | nil => rfl
  | cons c cs ih =>
      obtain ⟨first, others⟩ := List.forall_mem_cons.1 bare
      rw [List.flatMap_cons, ih others, if_neg (Bool.eq_false_iff.1 first)]
      rfl

/-! ## Reading a server -/

/-- What digits are read onto only grows. -/
theorem le_ofDigitChars (digits : List Char) (value : Nat) :
    value ≤ Nat.ofDigitChars 10 digits value := by
  induction digits generalizing value with
  | nil => exact Nat.le_refl _
  | cons d ds ih =>
      rw [Nat.ofDigitChars_cons]
      exact Nat.le_trans (by omega) (ih _)

/-- Digits are read onto what stands before them, as long as the whole is a port. -/
theorem readPort_digits {digits : List Char} (all : ∀ c ∈ digits, c.isDigit = true)
    (written : digits ≠ []) {value : Option Nat}
    (within : Nat.ofDigitChars 10 digits (value.getD 0) ≤ 65535) :
    readPort value digits = .ok (some (Nat.ofDigitChars 10 digits (value.getD 0)), []) := by
  induction digits generalizing value with
  | nil => exact absurd rfl written
  | cons d ds ih =>
      obtain ⟨digit, digits⟩ := List.forall_mem_cons.1 all
      rw [Nat.ofDigitChars_cons, Nat.mul_comm] at within ⊢
      have fits : ¬ value.getD 0 * 10 + (d.toNat - '0'.toNat) > 65535 :=
        Nat.not_lt.2 (Nat.le_trans (le_ofDigitChars ds _) within)
      rw [readPort, Text.digit?_eq, if_pos digit]
      simp only [if_neg fits]
      cases ds with
      | nil => rfl
      | cons e es => exact ih digits (List.cons_ne_nil e es) within

/-- A port is read as it was written. -/
theorem readPort_toString (port : UInt16) :
    readPort none (toString port.toNat).toList = .ok (some port.toNat, []) := by
  have value : Nat.ofDigitChars 10 (Nat.toDigits 10 port.toNat) 0 = port.toNat :=
    Nat.ofDigitChars_ten_toDigits
  have within : Nat.ofDigitChars 10 (Nat.toDigits 10 port.toNat) 0 ≤ 65535 := by
    rw [value]
    exact Nat.le_of_lt_succ port.toNat_lt
  have read : readPort none (Nat.toDigits 10 port.toNat) =
      .ok (some (Nat.ofDigitChars 10 (Nat.toDigits 10 port.toNat) 0), []) :=
    readPort_digits (fun _ => Nat.isDigit_of_mem_toDigits (by decide) (by decide))
      Nat.toDigits_ne_nil within
  rw [value] at read
  rw [Nat.toString_eq_ofList_toDigits, String.toList_ofList, read]

/-- A host ends at its port, or where the authority does. -/
theorem splitPort_append {host : List Char} (inert : ∀ c ∈ host, Inert c) (rest : List Char) :
    splitPort false (host ++ rest) =
      (host ++ (splitPort false rest).1, (splitPort false rest).2) := by
  induction host with
  | nil => rfl
  | cons c host ih =>
      have passes : ∀ d, isForbiddenInHost d = true → c ≠ d := fun d forbidden same =>
        notMem_of_inert inert forbidden (same ▸ List.mem_cons_self)
      have colon := passes ':' rfl
      have opening := passes '[' rfl
      have closing := passes ']' rfl
      rw [List.cons_append, splitPort]
      simp only [colon, opening, closing, false_and, if_false,
        ih fun d among => inert d (List.mem_cons_of_mem c among)]
      rfl

theorem endsAuthority_of_inert {c : Char} (inert : Inert c) : endsAuthority .general c = false := by
  have passes : ∀ d, isForbiddenInHost d = true → c ≠ d := fun d forbidden same =>
    absurd forbidden (by rw [← same, inert.allowed]; exact Bool.false_ne_true)
  simp [endsAuthority, SchemeKind.isSpecial, passes '/' rfl, passes '?' rfl, passes '#' rfl]

end Url

namespace ServerAddress

variable (s : ServerAddress)

theorem host_inert : ∀ c ∈ s.host.text.toList, Url.Inert c := by
  intro c among
  refine Url.inert_of_isUnreserved ?_
  rcases s.host.plain c among with letter | rfl | rfl
  · exact Text.isUnreserved_of_isAlphanum letter
  · decide
  · decide

/-- Behind the host there is nothing, or a colon and digits. -/
theorem portText_cases :
    (s.port = none ∧ s.portText.toList = []) ∨
      ∃ port, s.port = some port ∧ s.portText.toList = ':' :: (toString port.toNat).toList := by
  unfold portText
  cases s.port with
  | none => exact .inl ⟨rfl, rfl⟩
  | some port => exact .inr ⟨port, rfl, by rw [String.toList_append]; rfl⟩

theorem portText_inert : ∀ c ∈ s.portText.toList, Url.Inert c ∨ c = ':' := by
  rcases s.portText_cases with ⟨-, empty⟩ | ⟨port, -, written⟩
  · rw [empty]
    exact List.forall_mem_nil _
  · rw [written]
    refine List.forall_mem_cons.2 ⟨.inr rfl, fun c among => .inl ?_⟩
    rw [Nat.toString_eq_ofList_toDigits, String.toList_ofList] at among
    have digit : c.isDigit = true := Nat.isDigit_of_mem_toDigits (by decide) (by decide) among
    refine Url.inert_of_isUnreserved (Text.isUnreserved_of_isAlphanum ?_)
    simp [Char.isAlphanum, digit]

/-- A host is read as it is written. -/
theorem opaqueHost_eq : Url.opaqueHost s.host.text.toList = .ok s.host.text := by
  have opening : s.host.text.toList.head? ≠ some '[' := fun first =>
    Url.notMem_of_inert s.host_inert rfl (List.mem_of_mem_head? first)
  have allowed : s.host.text.toList.any Url.isForbiddenInHost = false := by
    simpa using fun c among => (s.host_inert c among).allowed
  have printed := Url.percentEncode_of_inert fun c among => (s.host_inert c among).printed
  rw [Url.opaqueHost, if_neg opening, allowed, if_neg Bool.false_ne_true, printed,
    String.ofList_toList]

/-- What stands between the slashes of an address names the server. -/
theorem afterSlashes_eq (scheme : String) {tail : List Char} (ends : ∀ c ∈ tail.head?, c = '/') :
    Url.afterSlashes scheme .general (s.host.text.toList ++ s.portText.toList ++ tail) =
      .ok {
        scheme := scheme
        host := some s.host.text
        port := s.port.map UInt16.toNat
        path := Url.pathAfterAuthority .general tail } := by
  let authority := s.host.text.toList ++ s.portText.toList
  have inside : ∀ c ∈ authority, (!Url.endsAuthority .general c) = true := by
    intro c among
    have inert : Url.Inert c ∨ c = ':' :=
      (List.mem_append.1 among).elim (fun within => .inl (s.host_inert c within))
        (s.portText_inert c)
    rcases inert with inert | rfl
    · rw [Url.endsAuthority_of_inert inert]
      rfl
    · rfl
  have outside : tail.takeWhile (fun c => !Url.endsAuthority .general c) = [] ∧
      tail.dropWhile (fun c => !Url.endsAuthority .general c) = tail := by
    cases tail with
    | nil => exact ⟨rfl, rfl⟩
    | cons c tail =>
        obtain rfl := ends c rfl
        exact ⟨rfl, rfl⟩
  have read : (authority ++ tail).takeWhile (fun c => !Url.endsAuthority .general c) =
      authority := by
    rw [List.takeWhile_append_of_pos inside, outside.1, List.append_nil]
  have left : (authority ++ tail).dropWhile (fun c => !Url.endsAuthority .general c) = tail := by
    rw [List.dropWhile_append_of_pos inside, outside.2]
  have noUser : Url.splitUser authority = none := by
    have absent : '@' ∉ authority := by
      intro among
      rcases List.mem_append.1 among with within | within
      · exact Url.notMem_of_inert s.host_inert rfl within
      · rcases s.portText_inert '@' within with inert | same
        · cases inert.allowed
        · cases same
    rw [Url.splitUser, Text.splitOn_of_notMem absent]
    rfl
  have named : s.host.text.isEmpty = false := by
    simpa using s.host.ne_empty
  have ports : Url.splitPort false authority =
      (s.host.text.toList, s.port.map fun port => (toString port.toNat).toList) := by
    rw [Url.splitPort_append s.host_inert]
    rcases s.portText_cases with ⟨none, written⟩ | ⟨port, given, written⟩
    · rw [written, none]
      simp [Url.splitPort]
    · rw [written, given]
      simp [Url.splitPort]
  simp only [Url.afterSlashes, bind, Except.bind, pure, Except.pure]
  change (authority ++ tail).takeWhile _ = _ at read
  rw [read, left, noUser]
  simp only [Option.getD_none, Option.isSome_none, Bool.false_eq_true, false_and, if_false, ports,
    Url.readHost, s.opaqueHost_eq, named]
  cases s.port with
  | none => rfl
  | some port =>
      simp only [Option.map_some, Url.readPort_toString, List.nil_append]

end ServerAddress

/-! ## Reading an entry -/

namespace Url

/-- What was written for a name with an equals sign is no dot segment. -/
theorem isDot_of_written {dn : String} {entry : List Char} (named : '=' ∈ dn.toList)
    (written : PercentWritten (encodeUtf8 dn) entry) :
    isSingleDot entry = false ∧ isDoubleDot entry = false := by
  have sign : (0x3D : UInt8) ∈ encodeUtf8 dn :=
    List.mem_flatMap.2 ⟨'=', named, List.mem_singleton.2 rfl⟩
  have reserved : ∀ c, isUnreserved c = true → UInt8.ofNat c.toNat ≠ 0x3D := by
    intro c unreserved same
    have range := Text.range_of_isUnreserved unreserved
    have value : c.toNat = 0x3D := by
      have octet := congrArg UInt8.toNat same
      rwa [Text.toNat_octet (by omega)] at octet
    obtain rfl : c = '=' := Char.toNat_inj.1 value
    exact absurd unreserved (by decide)
  obtain ⟨high, low, highDigit, -, within⟩ := written.escaped sign reserved
  -- Both digits of that value are the same character, and no dot segment has it.
  obtain rfl : high = '3' := by rcases highDigit with rfl | rfl <;> rfl
  have digit : '3' ∈ entry.map Char.toLower :=
    List.mem_map.2 ⟨'3', within.subset (by simp), rfl⟩
  have other : ∀ dots : List Char, '3' ∉ dots → (entry.map Char.toLower == dots) = false := by
    intro dots absent
    refine beq_eq_false_iff_ne.2 ?_
    rintro same
    exact absent (same ▸ digit)
  simp [isSingleDot, isDoubleDot, other]

theorem inert_of_written {dn : String} {entry : List Char}
    (written : PercentWritten (encodeUtf8 dn) entry) : ∀ c ∈ entry, Inert c := by
  intro c among
  rcases written.chars c among with unreserved | rfl
  · exact inert_of_isUnreserved unreserved
  · exact inert_percent

/-- A single segment that is no dot segment is its path. -/
theorem resolvePath_segment {entry : List Char} (inert : ∀ c ∈ entry, Inert c)
    (single : isSingleDot entry = false) (double : isDoubleDot entry = false) :
    resolvePath .general entry = String.ofList ('/' :: entry) := by
  have bare : ∀ c ∈ '/' :: entry, isPathEscaped c = false :=
    List.forall_mem_cons.2 ⟨rfl, fun c among => (inert c among).bare⟩
  have segment := Text.splitOn_of_notMem (notMem_of_inert inert (d := '/') rfl)
  simp only [resolvePath, SchemeKind.isSpecial, Bool.false_eq_true, if_false, segment, resolveDots,
    double, single, List.reverse_cons, List.reverse_nil, List.nil_append, List.flatMap_cons,
    List.flatMap_nil, List.append_nil]
  exact percentEncode_of_inert bare

/-- A query does not belong to the path. -/
theorem withoutQuery_append {cs : List Char} (inert : ∀ c ∈ cs, Inert c) {query : List Char}
    (starts : ∀ c ∈ query.head?, c = '?') : withoutQuery ('/' :: cs ++ query) = '/' :: cs := by
  have path : ∀ c ∈ '/' :: cs, (c != '?' && c != '#') = true := by
    refine List.forall_mem_cons.2 ⟨rfl, fun c among => ?_⟩
    have question : c ≠ '?' := fun same => notMem_of_inert inert rfl (same ▸ among)
    have number : c ≠ '#' := fun same => notMem_of_inert inert rfl (same ▸ among)
    simp [question, number]
  have behind : query.takeWhile (fun c => c != '?' && c != '#') = [] := by
    cases query with
    | nil => rfl
    | cons c query =>
        obtain rfl := starts c rfl
        rfl
  rw [withoutQuery, List.takeWhile_append_of_pos path, behind, List.append_nil]

/-- A text without anything that is stripped counts as it is. -/
theorem significant_eq {cs : List Char} (counts : ∀ c ∈ cs, isMargin c = false) :
    significant cs = cs := by
  have back : ∀ c ∈ cs.reverse, isMargin c = false := fun c among =>
    counts c (List.mem_reverse.1 among)
  have solid : cs.filter (fun c => !isIgnored c) = cs := by
    refine List.filter_eq_self.2 fun c among => ?_
    have kept := mt isMargin_of_isIgnored (Bool.eq_false_iff.1 (counts c among))
    rw [Bool.eq_false_iff.2 kept]
    rfl
  rw [significant, dropWhile_isMargin counts, dropWhile_isMargin back, List.reverse_reverse, solid]

end Url

/-! ## Whole addresses -/

namespace ServerAddress

variable (s : ServerAddress)

theorem text_toList : s.text.toList =
    s.scheme.text.toList ++ "://".toList ++ (s.host.text.toList ++ s.portText.toList) := by
  simp only [text, String.toList_append, List.append_assoc]

theorem text_counts : ∀ c ∈ s.text.toList, Url.isMargin c = false := by
  have start : ∀ c ∈ s.scheme.text.toList ++ "://".toList, Url.isMargin c = false := by
    cases s.scheme <;> exact List.all_iff_forall_prop.1 (by decide)
  rw [text_toList]
  refine List.forall_mem_append.2 ⟨start, List.forall_mem_append.2 ⟨?_, ?_⟩⟩
  · exact fun c among => (s.host_inert c among).counts
  · intro c among
    rcases s.portText_inert c among with inert | rfl
    · exact inert.counts
    · rfl

/-- The address of a server, perhaps with a path and more behind it. -/
theorem url_parse_eq {text : String} {tail : List Char}
    (signs : Url.significant text.toList = s.text.toList ++ tail)
    (ends : ∀ c ∈ tail.head?, c = '/') :
    Url.parse text = .ok {
      scheme := s.scheme.text
      host := some s.host.text
      port := s.port.map UInt16.toNat
      path := Url.pathAfterAuthority .general tail } := by
  have scheme : Url.readScheme (s.text.toList ++ tail) = some (s.scheme.text.toList,
      '/' :: '/' :: (s.host.text.toList ++ s.portText.toList ++ tail)) := by
    rw [text_toList]
    cases s.scheme <;> rfl
  have kind : Url.schemeKind s.scheme.text = .general := by
    cases s.scheme <;> rfl
  rw [Url.parse, signs, scheme]
  simp only [String.ofList_toList, Url.afterScheme, kind]
  exact s.afterSlashes_eq _ ends

/-- What a referral to a server leads to, when the path of its address is known. -/
theorem target_parse_eq {text entry dn : String} {tail : List Char}
    (signs : Url.significant text.toList = s.text.toList ++ tail)
    (ends : ∀ c ∈ tail.head?, c = '/')
    (path : (Url.pathAfterAuthority .general tail).toList.dropWhile (· == '/') = entry.toList)
    (read : Text.percentDecode entry = .ok dn) :
    ReferralTarget.parse text = .ok ⟨s.filled.text, dn⟩ := by
  have known : ReferralTarget.defaultPort? s.scheme.text = some s.scheme.port.toNat := by
    cases s.scheme <;> rfl
  have port : (s.port.map UInt16.toNat).getD s.scheme.port.toNat =
      (s.port.getD s.scheme.port).toNat := by
    cases s.port <;> rfl
  simp only [ReferralTarget.parse, s.url_parse_eq signs ends, known, path, String.ofList_toList,
    read, port]
  simp only [filled, ServerAddress.text, portText, String.append_assoc]

/-- What counts of the address of an entry.  What stays of a query does not matter, as long as its
mark does. -/
theorem significant_address {entry : String} (inert : ∀ c ∈ entry.toList, Url.Inert c)
    (query : Option String) :
    ∃ behind : List Char, (∀ c ∈ behind.head?, c = '?') ∧
      Url.significant (s.text ++ "/" ++ entry ++ queryText query).toList =
        s.text.toList ++ ('/' :: entry.toList ++ behind) := by
  have counts : ∀ c ∈ s.text.toList ++ '/' :: entry.toList, Url.isMargin c = false :=
    List.forall_mem_append.2 ⟨s.text_counts, List.forall_mem_cons.2 ⟨rfl, fun c among =>
      (inert c among).counts⟩⟩
  cases query with
  | none =>
      have whole : (s.text ++ "/" ++ entry ++ queryText none).toList =
          s.text.toList ++ '/' :: entry.toList := by
        simp [queryText]
      refine ⟨[], by simp, ?_⟩
      rw [whole, Url.significant_eq counts, List.append_nil]
  | some query =>
      have whole : (s.text ++ "/" ++ entry ++ queryText (some query)).toList =
          (s.text.toList ++ '/' :: entry.toList ++ ['?']) ++ query.toList := by
        simp [queryText]
      obtain ⟨rest, signs⟩ := Url.significant_append
        (s.text.toList ++ '/' :: entry.toList ++ ['?']) (by simp)
        (List.forall_mem_append.2 ⟨counts, List.forall_mem_singleton.2 rfl⟩) query.toList
      refine ⟨'?' :: rest, fun c first => (Option.some.inj first).symm, ?_⟩
      rw [whole, signs]
      simp

/-- **A referral leads where its address was made for.**  The address of any server, a slash, the
name of any entry that has an equals sign, percent-encoded in any way, and perhaps a query: the
client finds that entry and that server, with the port of the scheme where none was given.  And the
server it finds is found again in its own address. -/
theorem parse_address {dn entry : String} (named : '=' ∈ dn.toList)
    (written : PercentWritten (encodeUtf8 dn) entry.toList) (query : Option String) :
    ReferralTarget.parse (s.text ++ "/" ++ entry ++ queryText query) = .ok ⟨s.filled.text, dn⟩ ∧
      ReferralTarget.parse s.filled.text = .ok ⟨s.filled.text, ""⟩ := by
  have inert := Url.inert_of_written written
  constructor
  · obtain ⟨behind, marked, signs⟩ := s.significant_address inert query
    obtain ⟨single, double⟩ := Url.isDot_of_written named written
    have path : (Url.pathAfterAuthority .general ('/' :: entry.toList ++ behind)).toList =
        '/' :: entry.toList := by
      rw [Url.pathAfterAuthority, Url.withoutQuery_append inert marked]
      simp only [true_or, if_true]
      rw [Url.resolvePath_segment inert single double, String.toList_ofList]
    have solid : entry.toList.dropWhile (· == '/') = entry.toList := by
      refine List.dropWhile_eq_self_iff.2 fun nonempty => ?_
      have slash : '/' ∉ entry.toList := Url.notMem_of_inert inert rfl
      have first : entry.toList[0] ≠ '/' := fun same => slash (same ▸ List.getElem_mem nonempty)
      simpa using first
    refine s.target_parse_eq signs (fun c first => (Option.some.inj first).symm) ?_
      (Text.percentDecode_of_written written)
    rw [path]
    exact solid
  · have bare : Url.significant s.filled.text.toList = s.filled.text.toList ++ [] := by
      rw [Url.significant_eq s.filled.text_counts, List.append_nil]
    have nothing : (Url.pathAfterAuthority .general []).toList.dropWhile (· == '/') =
        "".toList := rfl
    exact s.filled.target_parse_eq bare (by simp) nothing (Text.percentDecode_of_written .nil)

/-- A name with what parts an address elsewhere, in escapes of either case, before a query. -/
theorem parse_address_of_reserved :
    let s : ServerAddress :=
      ⟨.ldaps, ⟨"Ldap-2.example", by decide, List.all_iff_forall_prop.1 (by decide)⟩, none⟩
    let dn := "c=a/b? %é"
    s.text = "ldaps://Ldap-2.example" ∧ '=' ∈ dn.toList ∧
      PercentWritten (encodeUtf8 dn) "c%3da%2Fb%3F%20%25%C3%a9".toList ∧
      ReferralTarget.parse "ldaps://Ldap-2.example/c%3da%2Fb%3F%20%25%C3%a9?sub#x" =
        .ok ⟨"ldaps://Ldap-2.example:636", dn⟩ ∧
      ReferralTarget.parse "ldaps://Ldap-2.example:636" =
        .ok ⟨"ldaps://Ldap-2.example:636", ""⟩ := by
  intro s dn
  have octets : encodeUtf8 dn =
      [0x63, 0x3D, 0x61, 0x2F, 0x62, 0x3F, 0x20, 0x25, 0xC3, 0xA9] := by decide
  have written : PercentWritten (encodeUtf8 dn) "c%3da%2Fb%3F%20%25%C3%a9".toList := by
    rw [octets]
    exact .plain (c := 'c') rfl <| .escape (.inl rfl) (.inl rfl) <| .plain (c := 'a') rfl <|
      .escape (.inl rfl) (.inr rfl) <| .plain (c := 'b') rfl <| .escape (.inl rfl) (.inr rfl) <|
      .escape (.inl rfl) (.inl rfl) <| .escape (.inl rfl) (.inl rfl) <|
      .escape (.inr rfl) (.inl rfl) <| .escape (.inl rfl) (.inl rfl) .nil
  have named : '=' ∈ dn.toList := by decide
  have bare : s.text = "ldaps://Ldap-2.example" := by decide
  have server : s.filled.text = "ldaps://Ldap-2.example:636" := by decide
  obtain ⟨found, again⟩ := s.parse_address named written (some "sub#x")
  rw [server] at found again
  exact ⟨bare, named, written, found, again⟩

end ServerAddress

end ManagedLdap
