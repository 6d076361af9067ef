import BpnDirectory.Proofs.Store.Pages
import BpnDirectory.Resolver.Reads
import BpnDirectory.Service.Startup

namespace BpnDirectory
namespace Service

/-!
Sizes of pages.

A store looks for one record more than a page holds, so the size of a page has to leave room
for that in 64 bits, in a database even for a number with sign.  The check of the settings
asks that pages are not empty and that the usual size is no more than the greatest, but sets
no bound to the greatest.  It is the only bound that a request has to keep to, so whether
there is always room depends on it alone.
-/

open Store (Backend MappingStore PagedStore greatestSize)

/-! ## The settings -/

/-- Settings that pass the check have a usual size between one and the greatest. -/
theorem pageUsual_of_check {settings : Settings} (passed : settings.check = .ok ()) :
    settings.limits.pageUsual ≠ 0 ∧ settings.limits.pageUsual ≤ settings.limits.pageGreatest := by
  iterate 5 rcases bind_eq_ok.mp passed with ⟨_, _, passed⟩
  rcases bind_eq_ok.mp passed with ⟨_, sized, _⟩
  unfold Settings.refuse at sized
  split at sized
  · cases sized
  · next fit => simpa [UInt64.not_lt] using fit

theorem check_of_readSettings {environment : Environment} {settings : Settings}
    (read : readSettings environment = .ok settings) : settings.check = .ok () := by
  rcases bind_eq_ok.mp (mapError_eq_ok_iff.mp read) with ⟨found, _, passed⟩
  rcases bind_eq_ok.mp passed with ⟨_, checked, same⟩
  cases same
  exact checked

/-! ## The size of a page -/

/-- A request that asks for a size gets it, up to the greatest. -/
theorem pageSize_some {policy : Resolver.Policy} {size : UInt64} (nonzero : size ≠ 0) :
    Resolver.pageSize policy (some size) =
      .ok (if size ≤ policy.pageLimit then size else policy.pageLimit) :=
  if_neg nonzero

/-- The sizes that requests get are those from one up to the greatest. -/
theorem exists_pageSize {settings : Settings} (passed : settings.check = .ok ())
    {asked : Option UInt64} (positive : asked ≠ some 0) :
    ∃ size, Resolver.pageSize settings.policy asked = .ok size ∧ size ≠ 0 ∧
      size ≤ settings.limits.pageGreatest := by
  rcases pageUsual_of_check passed with ⟨filled, within⟩
  cases asked with
  | none => exact ⟨settings.limits.pageUsual, rfl, filled, within⟩
  | some size =>
      have nonzero : size ≠ 0 := fun zero => positive (congrArg some zero)
      refine ⟨_, pageSize_some nonzero, ?_⟩
      split
      · next fits => exact ⟨nonzero, fits⟩
      · refine ⟨?_, UInt64.le_refl _⟩
        intro zero
        rw [show settings.limits.pageGreatest = 0 from zero] at within
        exact filled (UInt64.le_antisymm within (UInt64.zero_le))

/-- Whether a kind of store can look for one record more than a page of a size holds.  In
memory their number has no sign; the limit of a statement has one. -/
def HasRoom (size : UInt64) : Store.Kind → Prop
  | .memory => (size + 1).toNat = size.toNat + 1
  | .tables => (size.toInt64 + 1).toInt = size.toNat + 1

/-- The least size for which there is no room in a kind of store. -/
def leastWithoutRoom : Store.Kind → Nat
  | .memory => 2 ^ 64 - 1
  | .tables => 2 ^ 63 - 1

theorem hasRoom_iff {size : UInt64} (kind : Store.Kind) :
    HasRoom size kind ↔ size.toNat < leastWithoutRoom kind := by
  cases kind with
  | memory => exact Store.toNat_add_one_iff
  | tables => exact Store.toInt64_add_one_iff

/-- Whether every page of a size that a store shows holds as many of the records behind its
token as fit. -/
def FillsPages (store : Backend) (size : UInt64) : Prop :=
  ∀ token start, PageToken.start token = .ok start →
    ∃ page, (MappingStore.listAll token size store).1 = .ok page ∧
      page.records = (recordsAfter start (PagedStore.records store)).take size.toNat

/-- Pages are filled unless they are to have the greatest size that 64 bits can tell: then
nothing is looked for at all. -/
theorem fillsPages_iff {store : Backend} (listable : PagedStore.IsListable store)
    {size : UInt64} :
    FillsPages store size ↔ size.toNat < 2 ^ 64 - 1 ∨ PagedStore.records store = [] := by
  by_cases room : size.toNat < 2 ^ 64 - 1
  · simp only [room, true_or, iff_true]
    intro token start starts
    exact ⟨_, Backend.listAll_eq listable starts room, Page.records_cut _ _⟩
  · have greatest : size = greatestSize := by
      apply UInt64.toNat_inj.mp
      have bound := size.toNat_lt
      change size.toNat = 2 ^ 64 - 1
      omega
    subst greatest
    simp only [room, false_or]
    constructor
    · intro fills
      rcases fills none none rfl with ⟨page, shown, filled⟩
      cases shown.symm.trans (Backend.listAll_greatest listable rfl)
      exact List.take_eq_nil_iff.mp filled.symm |>.resolve_left (by decide)
    · intro nothing token start starts
      refine ⟨_, Backend.listAll_greatest listable starts, ?_⟩
      have none_after : recordsAfter start [] = [] := by cases start <;> rfl
      rw [nothing, none_after]
      rfl

/-- Every request for a page other than an empty one gets a size of one at least.  A kind of
store has room for it if the size is below its bound, and pages are filled unless the size is
the greatest number of 64 bits.  So a kind of store has room for all requests exactly if the
greatest size of the settings is below its bound. -/
theorem hasRoom_iff_of_readSettings {environment : Environment} {settings : Settings}
    (read : readSettings environment = .ok settings) :
    (∀ asked, asked ≠ some 0 → ∃ size, Resolver.pageSize settings.policy asked = .ok size ∧
      1 ≤ size.toNat ∧
      (∀ kind, HasRoom size kind ↔ size.toNat < leastWithoutRoom kind) ∧
      ∀ store, PagedStore.IsListable store →
        (FillsPages store size ↔ size.toNat < 2 ^ 64 - 1 ∨ PagedStore.records store = [])) ∧
    ∀ kind,
      (∀ asked size, asked ≠ some 0 → Resolver.pageSize settings.policy asked = .ok size →
        HasRoom size kind) ↔
      settings.limits.pageGreatest.toNat < leastWithoutRoom kind := by
  have passed := check_of_readSettings read
  constructor
  · intro asked positive
    rcases exists_pageSize passed positive with ⟨size, sized, nonzero, _⟩
    have filled : 1 ≤ size.toNat :=
      Nat.one_le_iff_ne_zero.mpr fun zero => nonzero (UInt64.toNat_inj.mp zero)
    exact ⟨size, sized, filled, hasRoom_iff, fun store listable => fillsPages_iff listable⟩
  · intro kind
    constructor
    · intro room
      rcases pageUsual_of_check passed with ⟨filled, within⟩
      have nonzero : settings.limits.pageGreatest ≠ 0 := by
        intro zero
        rw [zero] at within
        exact filled (UInt64.le_antisymm within UInt64.zero_le)
      have sized : Resolver.pageSize settings.policy (some settings.limits.pageGreatest) =
          .ok settings.limits.pageGreatest := by
        rw [pageSize_some nonzero]
        split <;> rfl
      have asked : some settings.limits.pageGreatest ≠ some 0 := fun same =>
        nonzero (Option.some.inj same)
      exact (hasRoom_iff kind).mp (room _ _ asked sized)
    · intro bounded asked size positive sized
      rcases exists_pageSize passed positive with ⟨same, found, _, within⟩
      cases sized.symm.trans found
      exact (hasRoom_iff kind).mpr
        (Nat.lt_of_le_of_lt (UInt64.le_iff_toNat_le.mp within) bounded)

/-! ## The greatest size of all -/

def unboundedPages : Environment :=
  .ofList [("BDRS_PAGE_SIZE_MAX", "18446744073709551615"), ("BDRS_STORE_BACKEND", "memory")]

theorem exists_unboundedPages : ∃ settings,
    readSettings unboundedPages = .ok settings ∧
      Resolver.pageSize settings.policy (some greatestSize) = .ok greatestSize := by
  have greatest : (readSettings unboundedPages).map (fun settings => settings.policy.pageLimit) =
      .ok greatestSize := toOption_eq_some_iff.mp (by decide +kernel)
  rcases map_eq_ok_iff.mp greatest with ⟨settings, read, limit⟩
  refine ⟨settings, read, ?_⟩
  rw [pageSize_some (by decide), limit, if_pos (UInt64.le_refl _)]

def oneRecord : Backend :=
  ((Store.Request.put ⟨⟨2024, 2, 29⟩, 0, 0⟩ "BPNL00000000000A" "did:web:first" none).perform
    (.memory .empty)).2

theorem isListable_oneRecord : PagedStore.IsListable oneRecord :=
  PagedStore.listable_perform _ (show PagedStore.IsListable (Backend.memory .empty) from
    Store.Memory.isSound_empty)

theorem records_oneRecord_ne_nil : PagedStore.records oneRecord ≠ [] := by
  have one : (PagedStore.records oneRecord).length = 1 := by decide +kernel
  intro nothing
  rw [nothing] at one
  cases one

theorem greatest_page_unfilled : ∃ settings,
    readSettings unboundedPages = .ok settings ∧
      Resolver.pageSize settings.policy (some greatestSize) = .ok greatestSize ∧
      ¬ HasRoom greatestSize .memory ∧ ¬ HasRoom greatestSize .tables ∧
      ¬ FillsPages oneRecord greatestSize := by
  rcases exists_unboundedPages with ⟨settings, read, sized⟩
  rcases hasRoom_iff_of_readSettings read with ⟨each, _⟩
  rcases each (some greatestSize) (by decide) with ⟨size, same, _, room, fills⟩
  cases sized.symm.trans same
  refine ⟨settings, read, sized, ?_, ?_, ?_⟩
  · exact fun has => absurd ((room .memory).mp has) (by decide)
  · exact fun has => absurd ((room .tables).mp has) (by decide)
  · intro filled
    rcases (fills oneRecord isListable_oneRecord).mp filled with below | nothing
    · exact absurd below (by decide)
    · exact records_oneRecord_ne_nil nothing

/-- Settings that pass the check can let a request ask for a page so great that it comes out
empty. -/
theorem not_every_page_filled :
    ¬ ∀ (environment : Environment) (settings : Settings),
      readSettings environment = .ok settings → ∀ asked, asked ≠ some 0 →
        ∃ size, Resolver.pageSize settings.policy asked = .ok size ∧ 1 ≤ size.toNat ∧
          (∀ kind, HasRoom size kind) ∧
          ∀ store, PagedStore.IsListable store → FillsPages store size := by
  intro served
  rcases exists_unboundedPages with ⟨settings, read, sized⟩
  rcases served unboundedPages settings read (some greatestSize) (by decide) with
    ⟨size, same, _, _, fills⟩
  cases sized.symm.trans same
  rcases fills oneRecord isListable_oneRecord none none rfl with ⟨page, shown, filled⟩
  cases shown.symm.trans (Backend.listAll_greatest isListable_oneRecord rfl)
  exact records_oneRecord_ne_nil (List.take_eq_nil_iff.mp filled.symm |>.resolve_left (by decide))

end Service
end BpnDirectory
