import FreemkvUnlock.Interaction.History
import FreemkvUnlock.Renesas.Hook

/-! # Memory accesses as events

Reads and writes of the processor's memory as they show in a trace. Each access issues at most
one transfer, and the transfer names exactly the range that was asked for.
-/

namespace FreemkvUnlock.Renesas

open Bytes Interaction Fallible

/-- The address that a selector and an offset name: controller RAM, or the low addresses. Other
selectors name none. -/
def cpuAddress (selector : UInt8) (offset : ℕ) : Option ℕ :=
  if selector = 0x93 then some (0xa00000 + offset)
  else if selector = 0xb0 then some offset
  else none

/-- Address and bytes of a data-out, which has no address under an unknown selector. -/
def dataOut? (e : Event Scsi) : Option (Option ℕ × List UInt8) :=
  match e.1 with
  | .diagnosticMemory selector offset (.dataOut bytes) => some (cpuAddress selector offset, bytes)
  | _ => none

/-- A data-out of `bytes` at `a`, whether or not it succeeded. -/
def Writes (e : Event Scsi) (a : ℕ) (bytes : List UInt8) : Prop :=
  dataOut? e = some (some a, bytes)

/-- A data-out that meets the range, or may because its address is unknown. -/
def Touches (e : Event Scsi) (r : Range) : Prop :=
  ∃ a bytes, dataOut? e = some (a, bytes) ∧
    ∀ b, a = some b → ¬ (Range.sized b bytes.length).Disjoint r

def Reads (e : Event Scsi) (a : ℕ) (bytes : List UInt8) : Prop :=
  ∃ (selector : UInt8) (offset n : ℕ) (v : Vector UInt8 n),
    e = ⟨.diagnosticMemory selector offset (.dataIn n), .ok v⟩ ∧
      cpuAddress selector offset = some a ∧ v.toList = bytes

def Fetches (e : Event Scsi) (a n : ℕ) : Prop :=
  ∃ (selector : UInt8) (offset : ℕ),
    e.1 = .diagnosticMemory selector offset (.dataIn n) ∧ cpuAddress selector offset = some a

theorem Fetches.dataOut? {e : Event Scsi} {a n : ℕ} (h : Fetches e a n) : dataOut? e = none := by
  obtain ⟨s, o, h, -⟩ := h
  simp only [Renesas.dataOut?, h]

theorem Reads.fetches {e : Event Scsi} {a : ℕ} {bytes : List UInt8} (h : Reads e a bytes) :
    Fetches e a bytes.length := by
  obtain ⟨s, o, n, v, rfl, ha, rfl⟩ := h
  exact ⟨s, o, by rw [Vector.length_toList], ha⟩

theorem Writes.dataOut {e : Event Scsi} {a : ℕ} {b : Option ℕ} {bs bs' : List UInt8}
    (h : Writes e a bs) (h' : dataOut? e = some (b, bs')) : b = some a ∧ bs' = bs := by
  unfold Writes at h
  simpa [eq_comm] using h.symm.trans h'

theorem Writes.eq {e : Event Scsi} {a a' : ℕ} {bs bs' : List UInt8} (h : Writes e a bs)
    (h' : Writes e a' bs') : a' = a ∧ bs' = bs := by
  obtain ⟨ha, hbs⟩ := h.dataOut h'
  exact ⟨Option.some.inj ha, hbs⟩

theorem Touches.of_writes {e : Event Scsi} {a : ℕ} {bs : List UInt8} {r : Range}
    (h : Writes e a bs) : Touches e r ↔ ¬ (Range.sized a bs.length).Disjoint r := by
  constructor
  · rintro ⟨a', bs', h', hd⟩
    obtain ⟨rfl, rfl⟩ := h.dataOut h'
    exact hd a rfl
  · intro hd
    refine ⟨some a, bs, h, fun b hb => ?_⟩
    obtain rfl := Option.some.inj hb
    exact hd

theorem not_touches_of_none {e : Event Scsi} (h : dataOut? e = none) (r : Range) :
    ¬ Touches e r := by
  rintro ⟨a, bs, h', -⟩
  rw [h] at h'
  cases h'

variable {P : Pioneer} {profile : Profile} {cpu length : ℕ} {bytes : List UInt8}
  {τ : List (Event Scsi)}

/-! ## Targets -/

theorem u32TryFrom_eq_ok {n m : ℕ} : u32TryFrom n = .ok m ↔ n < 2 ^ 32 ∧ m = n := by
  simp only [u32TryFrom, except_bind_eq_ok_iff, check_eq_ok_iff, pure, Except.pure,
    Except.ok.injEq, exists_and_left, exists_const_iff]
  tauto

theorem address_eq {selector : UInt8} {offset : ℕ} (hb : profile.controllerCpuBase = 0xa00000)
    (h : address P profile cpu length = .ok (selector, offset)) :
    cpuAddress selector offset = some cpu := by
  obtain ⟨r, -, h⟩ := except_bind_eq_ok_iff.mp h
  rw [hb] at h
  split_ifs at h with hc <;> obtain ⟨u, -, h⟩ := except_bind_eq_ok_iff.mp h <;> cases h
  · simp only [cpuAddress, ↓reduceIte]
    rw [Nat.add_sub_cancel' hc]
  · rfl

theorem transferTarget_eq {data : MemoryTransfer} {selector : UInt8} {offset : ℕ}
    (hb : profile.controllerCpuBase = 0xa00000)
    (h : transferTarget P profile cpu data = .ok (selector, offset)) :
    cpuAddress selector offset = some cpu ∧ data.length < 2 ^ 32 ∧
      (isDataOut data = true → writableRam cpu data.length = true) := by
  obtain ⟨n, hn, h⟩ := except_bind_eq_ok_iff.mp h
  obtain ⟨hlt, rfl⟩ := u32TryFrom_eq_ok.mp hn
  obtain ⟨_, -, h⟩ := except_bind_eq_ok_iff.mp h
  obtain ⟨_, hw, h⟩ := except_bind_eq_ok_iff.mp h
  exact ⟨address_eq hb h, hlt, check_eq_ok_iff.mp hw⟩

/-! ## What an access does -/

/-- An access is refused before it is issued, or is exactly one transfer. -/
theorem run_memory {data : MemoryTransfer} {r : Except Fault data.Delivered}
    (h : Run (memory P profile cpu data).run τ r) :
    (τ = [] ∧ ∃ e, r = .error e) ∨
      ∃ selector offset, transferTarget P profile cpu data = .ok (selector, offset) ∧
        τ = [⟨.diagnosticMemory selector offset data, r⟩] := by
  rcases run_fallible_bind_iff.mp h with ⟨e, rfl, h₁⟩ | ⟨τ₁, ⟨s, o⟩, τ₂, rfl, h₁, h₂⟩
  · exact .inl ⟨(run_result_iff.mp h₁).1, e, rfl⟩
  · obtain ⟨rfl, ht⟩ := run_result_iff.mp h₁
    obtain ⟨a, rfl, rfl⟩ := run_ask_result_iff.mp h₂
    exact .inr ⟨s, o, ht.symm, rfl⟩

theorem run_write {r : Except Fault Unit} (hb : profile.controllerCpuBase = 0xa00000)
    (h : Run (write P profile cpu bytes).run τ r) :
    (τ = [] ∧ ∃ e, r = .error e) ∨ ∃ e, τ = [e] ∧ Writes e cpu bytes ∧ bytes.length < 2 ^ 32 ∧
      writableRam cpu bytes.length = true := by
  rcases run_memory h with h | ⟨s, o, ht, rfl⟩
  · exact .inl h
  · obtain ⟨ha, hl, hw⟩ := transferTarget_eq hb ht
    exact .inr ⟨_, rfl, by simp [Writes, dataOut?, ha], hl, hw rfl⟩

theorem run_read {r : Except Fault (List UInt8)} (hb : profile.controllerCpuBase = 0xa00000)
    (h : Run (read P profile cpu length).run τ r) :
    (τ = [] ∧ ∃ e, r = .error e) ∨ ∃ e, τ = [e] ∧ Fetches e cpu length ∧
      ((∃ err, r = .error err) ∨ ∃ bs, r = .ok bs ∧ bs.length = length ∧ Reads e cpu bs) := by
  rcases run_fallible_bind_iff.mp h with ⟨e, rfl, h₁⟩ | ⟨τ₁, _, τ₂, rfl, h₁, h₂⟩
  · exact .inl ⟨(run_ensure_iff.mp h₁).1, e, rfl⟩
  obtain ⟨rfl, -⟩ := run_ensure_ok_iff.mp h₁
  rcases run_fallible_bind_iff.mp h₂ with ⟨e, rfl, h₃⟩ | ⟨τ₃, v, τ₄, rfl, h₃, h₄⟩
  · rcases run_memory h₃ with ⟨rfl, -⟩ | ⟨s, o, ht, rfl⟩
    · exact .inl ⟨rfl, e, rfl⟩
    · exact .inr ⟨_, rfl, ⟨s, o, rfl, (transferTarget_eq hb ht).1⟩, .inl ⟨e, rfl⟩⟩
  · obtain ⟨rfl, rfl⟩ := run_fallible_pure_iff.mp h₄
    rcases run_memory h₃ with ⟨-, e, he⟩ | ⟨s, o, ht, rfl⟩
    · cases he
    have ha := (transferTarget_eq hb ht).1
    exact .inr ⟨_, rfl, ⟨s, o, rfl, ha⟩,
      .inr ⟨_, rfl, Vector.length_toList, s, o, length, v, rfl, ha, rfl⟩⟩

theorem run_read_ok (hb : profile.controllerCpuBase = 0xa00000)
    (h : Run (read P profile cpu length).run τ (.ok bytes)) :
    ∃ e, τ = [e] ∧ bytes.length = length ∧ Reads e cpu bytes := by
  rcases run_read hb h with ⟨-, e, he⟩ | ⟨e, rfl, -, ⟨err, he⟩ | ⟨bs, he, hl, hr⟩⟩
  · cases he
  · cases he
  · obtain rfl := Except.ok.inj he
    exact ⟨e, rfl, hl, hr⟩

def Readable (P : Pioneer) (profile : Profile) (cpu length : ℕ) : Prop :=
  (0 < length ∧ length ≤ 0x400000) ∧
    ∃ target, transferTarget P profile cpu (.dataIn length) = .ok target

theorem readable_of_run (h : Run (read P profile cpu length).run τ (.ok bytes)) :
    Readable P profile cpu length := by
  obtain ⟨_, _, _, rfl, h₁, h₂⟩ := run_fallible_bind_ok_iff.mp h
  obtain ⟨_, _, _, rfl, h₃, -⟩ := run_fallible_bind_ok_iff.mp h₂
  obtain ⟨_, target, _, rfl, h₄, -⟩ := run_fallible_bind_ok_iff.mp h₃
  exact ⟨(run_ensure_ok_iff.mp h₁).2, target, (run_result_iff.mp h₄).2.symm⟩

theorem readable_of_run_expect {u : Unit}
    (h : Run (expect P profile cpu length bytes).run τ (.ok u)) :
    Readable P profile cpu length := by
  obtain ⟨_, _, _, rfl, h₁, -⟩ := run_fallible_bind_ok_iff.mp h
  exact readable_of_run h₁

/-- A check by reading succeeds exactly when the expected bytes were delivered. -/
theorem run_expect_ok {u : Unit} (hb : profile.controllerCpuBase = 0xa00000)
    (h : Run (expect P profile cpu length bytes).run τ (.ok u)) :
    ∃ e, τ = [e] ∧ bytes.length = length ∧ Reads e cpu bytes := by
  obtain ⟨τ₁, bs, τ₂, rfl, h₁, h₂⟩ := run_fallible_bind_ok_iff.mp h
  obtain ⟨rfl, rfl⟩ := run_ensure_ok_iff.mp h₂
  simpa using run_read_ok hb h₁

end FreemkvUnlock.Renesas
