/-
# ManagedLdap.Proofs.Ldap.SearchEncoding -- the controls of a search in its request

A request has no field for "none": a limit of zero asks for everything, an empty selection for all
attributes, and a page of no size for no pages.  So a limit that is lost on its way to the request
is the opposite of itself, and the places to lose it are the rounding of milliseconds, the sum
before it, which has no room next to the largest word, and the settings that a page size may come
from.

`PageSizeInEffect` says which page size counts without looking at how it is found, and
`wholeSeconds` computes a time limit in words of 32 bits as a machine does, where a sum that has
no room wraps around; the limit that is sent is that one (`toInt_wholeSeconds`), and the quotient
rounded up (`timeLimitSecs_eq`).  `search_encodes` puts them together for the one request that the
start of a search sends.
-/
import ManagedLdap.Proofs.Ldap.PagedValue
import ManagedLdap.Proofs.Ldap.References
import ManagedLdap.Proofs.Ldap.SearchRequests
import Mathlib.Data.Rat.Floor

namespace ManagedLdap

set_option autoImplicit false

/-! ## Words -/

/-- The sum of two words, or the nearest word where it has no room. -/
def saturatingSum (a b : Int32) : Int32 :=
  let sum := a + b
  if 0 ≤ b ∧ sum < a then Int32.maxValue
  else if b < 0 ∧ a < sum then Int32.minValue
  else sum

theorem toInt_saturatingSum (a b : Int32) :
    (saturatingSum a b).toInt = max (-2 ^ 31) (min (a.toInt + b.toInt) (2 ^ 31 - 1)) := by
  have lowA := a.le_toInt
  have highA := a.toInt_lt
  have lowB := b.le_toInt
  have highB := b.toInt_lt
  have largest : Int32.maxValue.toInt = 2 ^ 31 - 1 := rfl
  have least : Int32.minValue.toInt = -2 ^ 31 := rfl
  unfold saturatingSum
  simp only [Int32.le_iff_toInt_le, Int32.lt_iff_toInt_lt, Int32.toInt_add, Int32.toInt_zero,
    apply_ite Int32.toInt, largest, least, Int.bmod_def]
  omega

/-- The whole seconds of so many milliseconds, rounded up, as words. -/
def wholeSeconds (ms : Int32) : Int32 :=
  if ms ≤ 0 then 0 else saturatingSum ms 999 / 1000

namespace LdapDirContext

variable {κ : Type}

/-! ## Time limits -/

/-- **No overflow.**  The time limit that is sent is the one that words make of it. -/
theorem toInt_wholeSeconds (ms : Int32) : (wholeSeconds ms).toInt = timeLimitSecs ms.toInt := by
  have high := ms.toInt_lt
  have unlimited : ms ≤ 0 ↔ ms.toInt ≤ 0 := Int32.le_iff_toInt_le
  have offset : (999 : Int32).toInt = 999 := rfl
  have unit : (1000 : Int32).toInt = 1000 := rfl
  unfold wholeSeconds timeLimitSecs
  by_cases none : ms.toInt ≤ 0
  · rw [if_pos (unlimited.2 none), if_pos none]
    rfl
  · rw [if_neg (fun le => none (unlimited.1 le)), if_neg none, Int32.toInt_div,
      toInt_saturatingSum, offset, unit, Int.tdiv_eq_ediv_of_nonneg (by omega),
      Int.bmod_eq_of_le (by omega) (by omega)]
    omega

theorem timeLimitSecs_eq_zero_iff (ms : Int) : timeLimitSecs ms = 0 ↔ ms ≤ 0 := by
  unfold timeLimitSecs
  split <;> omega

/-- A limit is rounded up, as far as there is room for it. -/
theorem timeLimitSecs_eq {ms : Int} (limited : 0 < ms) :
    timeLimitSecs ms = min ⌈(ms : ℚ) / 1000⌉ ⌊((2 ^ 31 - 1 : Int) : ℚ) / 1000⌋ := by
  have up := Rat.ceil_intCast_div_natCast ms 1000
  have down := Rat.floor_intCast_div_natCast (2 ^ 31 - 1) 1000
  rw [Nat.cast_ofNat] at up down
  rw [up, down, timeLimitSecs, if_neg (by omega)]
  omega

/-! ## Page sizes -/

/-- Which page size is in effect for a search: its own, else the one that the properties write,
if they write a word, else the configured one. -/
inductive PageSizeInEffect (c : LdapDirContext) (controls : SearchControls) : Int → Prop
  | own {size : Int} (set : controls.pageSize = some size) : PageSizeInEffect c controls size
  | property {value : String} {size : Int} (unset : controls.pageSize = none)
      (there : c.environment.get? Property.pageSize = some value)
      (writes : Text.WritesSigned value.toList size) (word : Text.Word32 size) :
      PageSizeInEffect c controls size
  | configured (unset : controls.pageSize = none)
      (unreadable : ∀ value size, c.environment.get? Property.pageSize = some value →
        Text.Word32 size → ¬ Text.WritesSigned value.toList size) :
      PageSizeInEffect c controls c.config.pageSize

/-- One page size is in effect. -/
theorem pageSizeInEffect_iff {c : LdapDirContext} {controls : SearchControls} {size : Int} :
    PageSizeInEffect c controls size ↔ size = c.pageSize controls := by
  have read : ∀ size, ((c.environment.get? Property.pageSize).bind fun v =>
      Text.signed32? v.toList) = some size ↔ ∃ value,
        c.environment.get? Property.pageSize = some value ∧
          Text.WritesSigned value.toList size ∧ Text.Word32 size := by
    intro size
    simp only [Option.bind_eq_some_iff, Text.signed32?_eq_some_iff]
  unfold pageSize
  constructor
  · intro inEffect
    cases inEffect with
    | own set => rw [set]
    | property unset there writes word => rw [unset, (read size).2 ⟨_, there, writes, word⟩]
    | configured unset unreadable =>
        rw [unset]
        dsimp only
        split
        · next size found =>
            obtain ⟨value, there, writes, word⟩ := (read size).1 found
            exact absurd writes (unreadable value size there word)
        · rfl
  · rintro rfl
    cases set : controls.pageSize with
    | some own => exact .own set
    | none =>
        dsimp only
        split
        · next size found =>
            obtain ⟨value, there, writes, word⟩ := (read size).1 found
            exact .property set there writes word
        · next unread =>
            refine .configured set fun value size there word writes => ?_
            rw [(read size).2 ⟨value, there, writes, word⟩] at unread
            cases unread

/-- Settings that are words put a word into effect. -/
theorem PageSizeInEffect.word {c : LdapDirContext} {controls : SearchControls} {size : Int}
    (inEffect : PageSizeInEffect c controls size)
    (own : ∀ size, controls.pageSize = some size → Text.Word32 size)
    (configured : Text.Word32 c.config.pageSize) : Text.Word32 size := by
  cases inEffect with
  | own set => exact own size set
  | property _ _ _ word => exact word
  | configured => exact configured

/-! ## The request -/

theorem requestedAttributes_ne_nil (controls : SearchControls) :
    requestedAttributes controls ≠ [] := by
  unfold requestedAttributes
  split
  · exact List.cons_ne_nil _ _
  · exact List.cons_ne_nil _ _
  · next listed _ => exact listed

/-- A request, with the controls that are sent along, asks for what the controls of a search say,
when its context has these request controls and a page size is in effect. -/
structure Encodes (controls : SearchControls) (held : List Control) (size : Int)
    (request : SearchRequest) (sent : List Control) : Prop where
  scope : request.scope = controls.scope
  typesOnly : request.typesOnly = controls.typesOnly
  sizeLimit : request.sizeLimit = max controls.countLimit 0
  unlimited : request.timeLimit = 0 ↔ controls.timeLimitMs ≤ 0
  timeLimit : 0 < controls.timeLimitMs → request.timeLimit =
    min ⌈(controls.timeLimitMs : ℚ) / 1000⌉ ⌊((2 ^ 31 - 1 : Int) : ℚ) / 1000⌋
  /-- Words are enough to compute it. -/
  words : ∀ ms : Int32, ms.toInt = controls.timeLimitMs →
    request.timeLimit = (wholeSeconds ms).toInt
  attributes : request.attributes ≠ []
  /-- The server reads the size, and no cookie, from the last of the controls. -/
  paged : 0 < size → ∃ value, sent = held ++ [⟨Control.pagedResults, false, some value⟩] ∧
    Ber.pagedValue? value = some (size, [])
  unpaged : size ≤ 0 → sent = held

/-- The request for the first page says what the controls say. -/
theorem encodes_opening {c : LdapDirContext} {controls : SearchControls} {size : Int}
    (inEffect : PageSizeInEffect c controls size) (word : Text.Word32 size) (dn filter : String)
    (tree : Filter.Tree) :
    Encodes controls c.requestControls size ((searchSpec dn filter controls).toRequest tree)
      (Client.pageControls c.requestControls (c.paging controls) []) where
  scope := rfl
  typesOnly := rfl
  sizeLimit := rfl
  unlimited := timeLimitSecs_eq_zero_iff _
  timeLimit := timeLimitSecs_eq
  words := by
    intro ms same
    rw [toInt_wholeSeconds, same]
    rfl
  attributes := requestedAttributes_ne_nil controls
  paged := by
    intro positive
    rw [paging, ← pageSizeInEffect_iff.1 inEffect, if_pos positive]
    exact ⟨_, rfl, Ber.pagedValue?_ofWord word⟩
  unpaged := by
    intro none
    rw [paging, ← pageSizeInEffect_iff.1 inEffect, if_neg (Int.not_lt.2 none)]
    rfl

/-- **The request of a search encodes its controls.**  Whatever the controls, the properties and
the configuration are, as far as they are words, one page size is in effect.  The start of a
search sends nothing but one request that encodes the controls with this page size, and sends it
unless the context is closed, its server does not listen, the filter is none, or the search is to
be paged while its context has a control for that already. -/
theorem search_encodes (name filter : String) {controls : SearchControls} {c : LdapDirContext}
    (own : ∀ size, controls.pageSize = some size → Text.Word32 size)
    (configured : Text.Word32 c.config.pageSize) (w : World κ) (k : LinkId) :
    ∃ size, (∀ size', PageSizeInEffect c controls size' ↔ size' = size) ∧
      ∃ sent,
        (search name filter controls c w).2.2.network.sentOver k =
          w.network.sentOver k ++ sent ∧
        (∀ r ∈ sent, ∃ request, r.request = .search request ∧
          Encodes controls c.requestControls size request r.controls) ∧
        (sent.length = if c.connection = some k ∧ w.network.isOpen k = true ∧
            (Filter.parse? filter).isSome ∧
            (0 < size → ∀ control ∈ c.requestControls, control.oid ≠ Control.pagedResults)
          then 1 else 0) := by
  have inEffect : PageSizeInEffect c controls (c.pageSize controls) :=
    pageSizeInEffect_iff.2 rfl
  have word := inEffect.word own configured
  refine ⟨c.pageSize controls, fun size' => pageSizeInEffect_iff, _,
    sentOver_search name filter controls c w k, fun r among => ?_, ?_⟩
  · split at among
    · obtain ⟨tree, -, rfl⟩ := Option.map_eq_some_iff.1 (Option.mem_toList.1 among)
      exact ⟨_, rfl, encodes_opening inEffect word _ _ _⟩
    · cases among
  · have clash : Client.pagingClash c.requestControls (c.paging controls) = false ↔
        (0 < c.pageSize controls →
          ∀ control ∈ c.requestControls, control.oid ≠ Control.pagedResults) := by
      unfold Client.pagingClash paging
      by_cases positive : 0 < c.pageSize controls
      · simp [positive]
      · simp [positive]
    have opened : (Client.opening c.requestControls (c.paging controls)
        (searchSpec (c.resolve name) filter controls)).length =
          if (Filter.parse? filter).isSome then 1 else 0 := by
      change (Option.toList (Option.map _ (Filter.parse? filter))).length = _
      cases Filter.parse? filter <;> rfl
    rw [apply_ite List.length, opened, List.length_nil]
    simp only [clash]
    grind

/-- A search of one and a half seconds at most, in pages of two hundred entries. -/
theorem search_encodes_of_pages :
    let controls : SearchControls :=
      { scope := .subtree, timeLimitMs := 1500, countLimit := -1, pageSize := some 200 }
    ∃ size, (∀ size', PageSizeInEffect SearchCursor.surfacing controls size' ↔ size' = size) ∧
      ∃ sent,
        (search "" Filter.matchAll controls SearchCursor.surfacing
          (SearchCursor.referring {})).2.2.network.sentOver 0 =
            (SearchCursor.referring {}).network.sentOver 0 ++ sent ∧
        (∀ r ∈ sent, ∃ request, r.request = .search request ∧
          Encodes controls [] size request r.controls) ∧
        sent.length = 1 := by
  intro controls
  obtain ⟨size, inEffect, sent, network, encodes, length⟩ :=
    @search_encodes Unit "" Filter.matchAll controls SearchCursor.surfacing
      (fun size set => by
        obtain rfl : 200 = size := Option.some.inj set
        decide)
      (by decide) (SearchCursor.referring {}) 0
  refine ⟨size, inEffect, sent, network, encodes, length.trans (if_pos ⟨rfl, rfl, ?_, ?_⟩)⟩
  · decide +kernel
  · exact fun _ => List.forall_mem_nil _

end LdapDirContext

end ManagedLdap
