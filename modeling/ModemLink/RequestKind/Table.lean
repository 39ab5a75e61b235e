/-
Module: ModemLink.RequestKind.Table
Purpose: Total tables with one entry per kind of request.
Main exports: RequestKind.Table, const, ofFn, get, set, get_set, ext_get
-/
import ModemLink.RequestKind

namespace ModemLink.RequestKind

/-- Place of a kind in opcode order. -/
def index : RequestKind → Fin 14
  | getSimStatus => 0
  | getSignalStrength => 1
  | setRadioPower => 2
  | sendSms => 3
  | setupDataCall => 4
  | deactivateDataCall => 5
  | getDeviceIdentity => 6
  | getCellInfoList => 7
  | getModemActivityInfo => 8
  | setCarrierInfoForImsiEncryption => 9
  | startNetworkScan => 10
  | enableUiccApplications => 11
  | getBarringInfo => 12
  | getSlicingConfig => 13

theorem index_inj {a b : RequestKind} : a.index = b.index ↔ a = b := by
  constructor
  · cases a <;> cases b <;> decide
  · rintro rfl; rfl

theorem exists_index_eq (i : Fin 14) : ∃ kind : RequestKind, kind.index = i :=
  match i with
  | 0 => ⟨getSimStatus, rfl⟩
  | 1 => ⟨getSignalStrength, rfl⟩
  | 2 => ⟨setRadioPower, rfl⟩
  | 3 => ⟨sendSms, rfl⟩
  | 4 => ⟨setupDataCall, rfl⟩
  | 5 => ⟨deactivateDataCall, rfl⟩
  | 6 => ⟨getDeviceIdentity, rfl⟩
  | 7 => ⟨getCellInfoList, rfl⟩
  | 8 => ⟨getModemActivityInfo, rfl⟩
  | 9 => ⟨setCarrierInfoForImsiEncryption, rfl⟩
  | 10 => ⟨startNetworkScan, rfl⟩
  | 11 => ⟨enableUiccApplications, rfl⟩
  | 12 => ⟨getBarringInfo, rfl⟩
  | 13 => ⟨getSlicingConfig, rfl⟩

/-- One value for each kind.  The entries lie in opcode order, so that two tables with the same
values are the same table. -/
structure Table (α : Type) where
  entries : Vector α 14
deriving DecidableEq, Repr

namespace Table

variable {α : Type}

/-- The value of a kind. -/
def get (table : Table α) (kind : RequestKind) : α :=
  table.entries[kind.index]

/-- The table with another value for one kind. -/
def set (table : Table α) (kind : RequestKind) (value : α) : Table α :=
  ⟨table.entries.set kind.index value⟩

/-- The same value for every kind. -/
def const (value : α) : Table α :=
  ⟨Vector.replicate 14 value⟩

/-- The value of each kind computed from the kind. -/
def ofFn (f : RequestKind → α) : Table α :=
  RequestKind.all.foldl (fun table kind => table.set kind (f kind)) (const (f .getSimStatus))

instance [Inhabited α] : Inhabited (Table α) := ⟨const default⟩

/-- The kinds with their values, in opcode order. -/
def toList (table : Table α) : List (RequestKind × α) :=
  RequestKind.all.map fun kind => (kind, table.get kind)

/-- The entries that have a value, in opcode order. -/
def present (table : Table (Option α)) : List (RequestKind × α) :=
  table.toList.filterMap fun (kind, value) => value.map (kind, ·)

@[simp] theorem get_const (value : α) (kind : RequestKind) : (const value).get kind = value := by
  simp [get, const]

theorem get_set (table : Table α) (kind other : RequestKind) (value : α) :
    (table.set kind value).get other = if other = kind then value else table.get other := by
  by_cases h : other = kind
  · subst h
    simp [get, set]
  · have indexNe : kind.index ≠ other.index := fun e => h (index_inj.mp e).symm
    have valNe : (kind.index : Nat) ≠ (other.index : Nat) := fun e => indexNe (Fin.ext e)
    simp [get, set, h, valNe]

@[simp] theorem get_set_self (table : Table α) (kind : RequestKind) (value : α) :
    (table.set kind value).get kind = value := by
  simp [get_set]

theorem get_set_of_ne (table : Table α) {kind other : RequestKind} (value : α)
    (h : other ≠ kind) : (table.set kind value).get other = table.get other := by
  simp [get_set, h]

@[simp] theorem get_ofFn (f : RequestKind → α) (kind : RequestKind) : (ofFn f).get kind = f kind := by
  simp only [ofFn, RequestKind.all, List.foldl, get_set]
  cases kind <;> simp

/-- Tables with the same values are equal. -/
theorem ext_get {a b : Table α} (h : ∀ kind, a.get kind = b.get kind) : a = b := by
  obtain ⟨a⟩ := a
  obtain ⟨b⟩ := b
  congr 1
  apply Vector.ext
  intro i hi
  obtain ⟨kind, hk⟩ := exists_index_eq ⟨i, hi⟩
  have := h kind
  simpa [get, hk] using this

end Table

end ModemLink.RequestKind
