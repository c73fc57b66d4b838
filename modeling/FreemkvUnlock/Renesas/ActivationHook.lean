import FreemkvUnlock.Renesas.Requests
import FreemkvUnlock.Renesas.Steps

/-! # The activation hook

What the hook does with each command of its namespace: identify itself, acknowledge a setting, or
switch the policy once the read engine is idle. Every other command gets an error or goes to the
OEM handler as it came.
-/

namespace FreemkvUnlock.Renesas

open Bytes Listing Protocol

/-! ## What a request leads to -/

def Busy (b : UInt8) : Prop := b ≠ 0 ∧ b < 8

section Spec

variable (main helper invalid : ℕ) (sites : Sites) (original reset : ℕ) (parts : Code.Parts)
  (oem : Oem)

/-- The error for a command that is not taken. -/
def Refuses (b : Cpu) (x : Exit) : Prop :=
  ∃ t, AsEntered 36 b t ∧
    x = .returned (((t.call oem invalid).put (.byte 8) (byteValue 1)).test (byteValue 1))

structure ReplyCall (buffer : ℕ) (b t : Cpu) : Prop where
  buffer : t.er 2 = BitVec.ofNat 32 buffer
  direction : t.get (.byte 9) = 0
  status : t.er 0 = b.er 0
  length : load .long t.mem (addressOf (t.er 7)) = 64
  calls : t.calls = b.calls
  mem : ∀ a ∉ b.ownStack 36, t.mem a = b.mem a

structure Returned (b t u : Cpu) : Prop where
  regs : ∀ r, 2 ≤ r → r ≤ 7 → u.er r = b.er r
  status : u.er 0 = (oem helper t).er 0
  calls : u.calls = b.calls ++ [⟨helper, t.er, t.mem⟩]
  mem : ∀ a ∉ b.ownStack 36, u.mem a = (oem helper t).mem a

def Replies (buffer : ℕ) (b : Cpu) (x : Exit) : Prop :=
  ∃ t u, x = .returned u ∧ ReplyCall buffer b t ∧ Returned helper oem b t u

structure Delays (b t : Cpu) : Prop where
  ticks : t.er 0 = 10
  calls : t.calls = b.calls
  mem : ∀ a ∉ b.ownStack 36, t.mem a = b.mem a

/-- What a call left, but with the registers that the hook has to give back. -/
def Cpu.resumed (b u : Cpu) : Cpu := { u with er := b.er }

def Cpu.engine (b : Cpu) (sites : Sites) : UInt8 := b.mem (BitVec.ofNat 24 sites.readEngineState)

inductive Waits (e : Cpu) : ℕ → Cpu → Prop
  | start : Waits e 0 e
  | round {k : ℕ} {b t : Cpu} : Waits e k b → k < 500 → Busy (b.engine sites) → Delays b t →
      (t.call oem sites.schedulerDelay).get (.word 0) = 0 →
      Waits e (k + 1) (b.resumed (t.call oem sites.schedulerDelay))

/-- The guarded pointers are those of the OEM, and the policy slot is the OEM's or this
payload's. -/
def Guarded (m : Store 24) : Prop :=
  load .long m (BitVec.ofNat 24 sites.acquisition.cpuAddress) = BitVec.ofNat 32 original ∧
  load .long m (BitVec.ofNat 24 sites.reset.cpuAddress) = BitVec.ofNat 32 reset ∧
  (load .long m (BitVec.ofNat 24 sites.securitySlot) = BitVec.ofNat 32 sites.securityTable ∨
    load .long m (BitVec.ofNat 24 sites.securitySlot) = BitVec.ofNat 32 parts.ownedPolicy)

/-- The policy slot after a switch; the policy borrows the acquisition callbacks. -/
def switchedSlots (off : Prop) [Decidable off] (m : Store 24) : Store 24 :=
  if off then
    store .long (store .long m (BitVec.ofNat 24 sites.securitySlot) (BitVec.ofNat 32 parts.policy))
      (BitVec.ofNat 24 sites.acquisition.cpuAddress) (BitVec.ofNat 32 parts.acquisition)
  else store .long m (BitVec.ofNat 24 sites.securitySlot) (BitVec.ofNat 32 sites.securityTable)

def copyLongs (copies : List (ℕ × ℕ)) (m : Store 24) : Store 24 :=
  copies.foldl (fun m c =>
    store .long m (BitVec.ofNat 24 c.2) (load .long m (BitVec.ofNat 24 c.1))) m

def Cpu.asksOff (b : Cpu) : Prop :=
  b.mem (addressOf (b.er 1) + BitVec.ofNat 24 6) = stateOff

instance (b : Cpu) : Decidable b.asksOff := inferInstanceAs (Decidable (_ = _))

structure Dispatches (b d : Cpu) : Prop where
  first : d.er 0 = 0
  second : load .long d.mem (addressOf (d.er 1)) = 0x00cf0000
  third : d.er 2 = 0
  calls : d.calls = b.calls
  mem : ∀ a ∉ b.ownStack 36, d.mem a =
    copyLongs (Code.bufferCopies sites) (switchedSlots sites parts b.asksOff b.mem) a

/-- What the dispatcher left, with the borrowed callbacks given back. -/
def Cpu.settled (b u : Cpu) : Cpu :=
  (b.resumed u).setMem (store .long u.mem (BitVec.ofNat 24 sites.acquisition.cpuAddress)
    (BitVec.ofNat 32 original))

/-- How a transition ends: the engine stays busy, a delay fails, a guard does not hold, the
dispatcher rejects the operation, or it is done. -/
inductive Transition (e : Cpu) (x : Exit) : Prop
  | busy {b : Cpu} : Waits sites oem e 500 b → Busy (b.engine sites) →
      Refuses invalid oem b x → Transition e x
  | failed {k : ℕ} {b t : Cpu} : Waits sites oem e k b → k < 500 → Busy (b.engine sites) →
      Delays b t → (t.call oem sites.schedulerDelay).get (.word 0) ≠ 0 →
      Refuses invalid oem (b.resumed (t.call oem sites.schedulerDelay)) x → Transition e x
  | foreign {k : ℕ} {b : Cpu} : Waits sites oem e k b → ¬ Busy (b.engine sites) →
      ¬ Guarded sites original reset parts b.mem → Refuses invalid oem b x → Transition e x
  | rejected {k : ℕ} {b d : Cpu} : Waits sites oem e k b → ¬ Busy (b.engine sites) →
      Guarded sites original reset parts b.mem → Dispatches sites parts b d →
      (d.call oem sites.dispatcher).get (.byte 8) ≠ 0 →
      Refuses invalid oem (b.settled sites original (d.call oem sites.dispatcher)) x →
      Transition e x
  | done {k : ℕ} {b d : Cpu} : Waits sites oem e k b → ¬ Busy (b.engine sites) →
      Guarded sites original reset parts b.mem → Dispatches sites parts b d →
      (d.call oem sites.dispatcher).get (.byte 8) = 0 →
      Replies helper oem parts.data (b.settled sites original (d.call oem sites.dispatcher)) x →
      Transition e x

def Answered (e : Cpu) : Request → Exit → Prop
  | .oem, x => ∃ t, x = .jumped main t ∧ AsEntered 36 e t
  | .invalid, x => Refuses invalid oem e x
  | .identity, x => Replies helper oem parts.identity e x
  | .acknowledge, x => Replies helper oem parts.data e x
  | .transition, x => Transition helper invalid sites original reset parts oem e x

/-- Where the hook reads and writes: nothing of it lies in the hook's own stack. -/
structure Placed (e : Cpu) : Prop where
  command : Disjoint (e.ownStack 36) (cells (addressOf (e.er 1)) 10)
  engine : BitVec.ofNat 24 sites.readEngineState ∉ e.ownStack 36
  acquisition : Disjoint (e.ownStack 36) (cells (BitVec.ofNat 24 sites.acquisition.cpuAddress) 4)
  reset : Disjoint (e.ownStack 36) (cells (BitVec.ofNat 24 sites.reset.cpuAddress) 4)
  slot : Disjoint (e.ownStack 36) (cells (BitVec.ofNat 24 sites.securitySlot) 4)
  copies : ∀ c ∈ Code.bufferCopies sites,
    Disjoint (e.ownStack 36) (cells (BitVec.ofNat 24 c.1) 4) ∧
    Disjoint (e.ownStack 36) (cells (BitVec.ofNat 24 c.2) 4)

end Spec

variable {main helper invalid : ℕ} {sites : Sites} {original reset : ℕ} {parts : Code.Parts}
  {oem : Oem} {b e s : Cpu} {prog rest : Code}

abbrev Cpu.hook (b : Cpu) : Entry := b.entry 36 (by norm_num)

/-! ## The ways out -/

theorem ends_refuse (h : Inside b.hook (b.hook.file [2]) [b.er 2] s) :
    Ends (cpu oem) prog (Refuses invalid oem b)
      (Code.pop 2 :: Code.call invalid ::
        Code.insn .mov (some .byte) (.immediate 1 8) (.register (.byte 8)) ::
        Code.rts :: rest) s := by
  refine h.ends_restore (by decide) fun t ht => ?_
  exact .op rfl (.op rfl (.leave rfl ⟨t, Inside.asEntered ht rfl, rfl⟩))

/-- Restore ER0 to ER6; ER2 gets whatever it held when the hook began to wait. -/
theorem ends_restoreRegisters {w : BitVec 32} {Q : Exit → Prop}
    (h : Inside b.hook (b.hook.file [6, 5, 4, 3, 2, 1, 0])
      [b.er 6, b.er 5, b.er 4, b.er 3, w, b.er 1, b.er 0, b.er 2] s)
    (hnext : ∀ t, Inside b.hook (b.hook.file [2]) [b.er 2] t → Ends (cpu oem) prog Q rest t) :
    Ends (cpu oem) prog Q (Code.restoreRegisters ++ rest) s := by
  refine h.ends_restore (r := 6) (by decide) fun t ht => ?_
  refine ht.ends_restore (r := 5) (by decide) fun t ht => ?_
  refine ht.ends_restore (r := 4) (by decide) fun t ht => ?_
  refine ht.ends_restore (r := 3) (by decide) fun t ht => ?_
  refine ht.ends_pop (by decide) fun t ht => ?_
  refine (ht.unknow rfl).ends_restore (r := 1) (by decide) fun t ht => ?_
  exact Inside.ends_restore (r := 0) ht (by decide) hnext

abbrev replyLines (helper : ℕ) (rest : Code) : Code :=
  Code.push 3 :: Code.set 3 64 :: Code.push 3 :: Code.clear .byte (.byte 9) ::
    Code.call helper :: Code.adds 4 :: Code.pop 3 :: Code.pop 2 :: Code.rts :: rest

section Reply

variable (hoem : oem.Respects 36 ∅)
include hoem

theorem ends_returned {t : Cpu} {file : File} {n : BitVec 32} {buffer : ℕ}
    (h : Inside b.hook file [n, b.er 3, b.er 2] t) (h₄ : file 4 = some (b.er 4))
    (h₅ : file 5 = some (b.er 5)) (h₆ : file 6 = some (b.er 6)) (hcall : ReplyCall buffer b t) :
    Ends (cpu oem) prog (Replies helper oem buffer b)
      (Code.adds 4 :: Code.pop 3 :: Code.pop 2 :: Code.rts :: rest) (t.call oem helper) := by
  have hreg (r : ℕ) (h₃ : 3 ≤ r) (h₇ : r ≤ 7) : (t.call oem helper).er r = t.er r :=
    hoem.regs helper t r h₃ h₇
  set u := t.call oem helper
  -- ER2 to ER6 are given back, ER0 and ER1 are the helper's
  let er (r : ℕ) : BitVec 32 := if 2 ≤ r ∧ r ≤ 7 then b.er r else u.er r
  have h₇ : er 7 = b.er 7 := rfl
  have hregs (r : ℕ) (v : BitVec 32) (hv : (b.hook.resume h₇ u).file [3, 2] r = some v) :
      u.er r = v := by
    rw [Entry.file] at hv
    split_ifs at hv with hr
    rw [← Option.some.inj hv]
    by_cases h₂ : 2 ≤ r
    · refine Eq.trans ?_ (if_pos ⟨h₂, by omega⟩).symm
      obtain rfl | rfl | rfl : r = 4 ∨ r = 5 ∨ r = 6 := by
        simp only [List.mem_cons, List.not_mem_nil, or_false, not_or] at hr
        omega
      · exact (hreg 4 (by decide) (by decide)).trans (h.regs 4 _ h₄)
      · exact (hreg 5 (by decide) (by decide)).trans (h.regs 5 _ h₅)
      · exact (hreg 6 (by decide) (by decide)).trans (h.regs 6 _ h₆)
    · exact (if_neg (by omega)).symm
  have hu := h.resume er h₇ (hreg 7 (by decide) (by decide)) (fun a ha =>
    hoem.mem helper t a (Or.inl (cells_mono (show 12 ≤ 36 by decide) ha))) rfl hregs
  refine hu.ends_drop fun s hs => ?_
  refine hs.ends_restore (r := 3) (by decide) fun s hs => ?_
  refine hs.ends_restore (r := 2) (by decide) fun s hs => ?_
  refine .leave rfl ⟨t, s, rfl, hcall, fun r h₂ hr => ?_, ?_, ?_, hs.mem⟩
  · exact (Inside.er_eq hs hr).trans (if_pos ⟨h₂, hr⟩)
  · exact Inside.er_eq hs (by decide)
  · exact hs.calls.trans (congrArg (· ++ _) hcall.calls)

theorem ends_reply {buffer : ℕ} (h : Inside b.hook (Function.update (b.hook.file [2]) 2
      (some (BitVec.ofNat 32 buffer))) [b.er 2] s) :
    Ends (cpu oem) prog (Replies helper oem buffer b)
      (replyLines helper rest) s := by
  refine h.ends_push (show 8 ≤ 36 by decide) (h.regs 3 _ rfl) fun t ht => ?_
  refine ht.ends_set (by decide) fun t ht => ?_
  refine ht.ends_push (show 12 ≤ 36 by decide) (ht.regs 3 _ rfl) fun t ht => ?_
  refine (ht.forget 1).ends_clearByte (by decide) rfl fun t ht hb => ?_
  refine .op rfl (ends_returned hoem ht rfl rfl rfl ⟨ht.regs 2 _ rfl, hb, ht.regs 0 _ rfl,
    ht.pop.1, ht.calls, ht.mem⟩)

theorem ends_acknowledge (h : Inside b.hook (b.hook.file [2]) [b.er 2] s) :
    Ends (cpu oem) prog (Replies helper oem parts.data b)
      (Code.set 2 parts.data :: .label .reply :: replyLines helper rest) s := by
  refine h.ends_set (by decide) fun t ht => .label ?_
  exact ends_reply hoem ht

end Reply

/-! ## Labels -/

section Labels

variable (main helper invalid sites original reset parts)

abbrev activationCode : Code := Code.activation main helper invalid sites original reset parts

theorem after_invalid : ∃ rest, after .invalid
    (activationCode main helper invalid sites original reset parts) =
      some (Code.pop 2 :: Code.call invalid ::
        Code.insn .mov (some .byte) (.immediate 1 8) (.register (.byte 8)) :: Code.rts :: rest) :=
  ⟨_, rfl⟩

theorem after_foundationOem : after .foundationOem
    (activationCode main helper invalid sites original reset parts) =
      some [Code.pop 2, Code.tail main] :=
  rfl

theorem after_reply : ∃ rest, after .reply
    (activationCode main helper invalid sites original reset parts) =
      some (replyLines helper rest) :=
  ⟨_, rfl⟩

theorem after_acknowledge : ∃ rest, after .acknowledge
    (activationCode main helper invalid sites original reset parts) =
      some (Code.set 2 parts.data :: .label .reply :: replyLines helper rest) :=
  ⟨_, rfl⟩

theorem after_identity : ∃ rest, after .identity
    (activationCode main helper invalid sites original reset parts) =
      some (Code.checks identityBytes .invalid ++
        (Code.set 2 parts.identity :: .branch 0 .reply :: rest)) :=
  ⟨_, rfl⟩

theorem after_refused : ∃ rest, after .refused
    (activationCode main helper invalid sites original reset parts) =
      some (Code.restoreRegisters ++ (.branch 0 .invalid :: rest)) :=
  ⟨_, rfl⟩

abbrev afterWait : Code :=
  Code.switchPolicy sites original reset parts ++ (Code.reinitialize sites original ++
    (Code.answer helper invalid parts ++ Code.oem main))

abbrev waitLoop (rest : Code) : Code :=
  Code.loadByte sites.readEngineState :: Code.compareByte 0 :: .branch 7 .readIdle ::
    Code.compareByte 8 :: .branch 4 .readIdle :: Code.compareLong 5 0 :: .branch 7 .refused ::
    Code.set 0 10 :: Code.call sites.schedulerDelay :: Code.move .word (.word 0) (.word 0) ::
    .branch 6 .refused :: Code.subs 1 5 :: .branch 0 .waitReadIdle :: .label .readIdle ::
    Code.move .long (.long 6) (.long 1) :: rest

/-- The lines of a transition. -/
abbrev transitionLines : Code :=
  Code.push 0 :: Code.push 1 :: Code.push 2 :: Code.push 3 :: Code.push 4 :: Code.push 5 ::
    Code.push 6 :: Code.move .long (.long 1) (.long 6) :: Code.set 5 500 :: .label .waitReadIdle ::
    waitLoop sites (afterWait main helper invalid sites original reset parts)

theorem after_transition : after .transition
    (activationCode main helper invalid sites original reset parts) =
      some (transitionLines main helper invalid sites original reset parts) :=
  rfl

theorem after_waitReadIdle : after .waitReadIdle
    (activationCode main helper invalid sites original reset parts) =
      some (waitLoop sites (afterWait main helper invalid sites original reset parts)) :=
  rfl

theorem after_readIdle : after .readIdle
    (activationCode main helper invalid sites original reset parts) =
      some (Code.move .long (.long 6) (.long 1) ::
        afterWait main helper invalid sites original reset parts) :=
  rfl

abbrev switchLoop (rest : Code) : Code :=
  Code.cdbByte 6 :: Code.compareByte stateOff :: .branch 6 .restorePolicy ::
    Code.set 2 parts.policy :: Code.storeLong 2 sites.securitySlot ::
    Code.set 2 parts.acquisition :: Code.storeLong 2 sites.acquisition.cpuAddress ::
    .branch 0 .reinit :: .label .restorePolicy :: Code.set 2 sites.securityTable ::
    Code.storeLong 2 sites.securitySlot :: .label .reinit :: rest

abbrev afterSwitch : Code :=
  (Code.bufferCopies sites).flatMap (fun c => [Code.loadLong 2 c.1, Code.storeLong 2 c.2]) ++
    (Code.subs 4 7 :: Code.set 2 0x00cf0000 ::
      Code.insn .mov (some .long) (.register (.long 2)) (.address (.indirect (.long 7))) ::
      Code.move .long (.long 7) (.long 1) :: Code.clear .long (.long 0) ::
      Code.clear .long (.long 2) :: Code.call sites.dispatcher :: Code.adds 4 ::
      Code.set 2 original :: Code.storeLong 2 sites.acquisition.cpuAddress ::
      Code.move .byte (.byte 8) (.byte 8) :: .branch 6 .refused ::
      (Code.restoreRegisters ++ (Code.answer helper invalid parts ++ Code.oem main)))

theorem after_ownedPolicy : after .ownedPolicy
    (activationCode main helper invalid sites original reset parts) =
      some (switchLoop sites parts (afterSwitch main helper invalid sites original parts)) :=
  rfl

theorem after_restorePolicy : after .restorePolicy
    (activationCode main helper invalid sites original reset parts) =
      some (Code.set 2 sites.securityTable :: Code.storeLong 2 sites.securitySlot ::
        .label .reinit :: afterSwitch main helper invalid sites original parts) :=
  rfl

theorem after_reinit : after .reinit
    (activationCode main helper invalid sites original reset parts) =
      some (afterSwitch main helper invalid sites original parts) :=
  rfl

end Labels

/-! ## Waiting -/

def allFree : List ℕ := [6, 5, 4, 3, 2, 1, 0]

theorem file_allFree (E : Entry) (r : ℕ) : E.file allFree r = none := by
  rw [Entry.file, if_pos]
  simp only [allFree, List.mem_cons, List.not_mem_nil, or_false]
  omega

/-- All that is known of the registers may be forgotten at once. -/
theorem Inside.forgetAll {E : Entry} {file : File} {stack : List (BitVec 32)}
    (h : Inside E file stack s) : Inside E (E.file allFree) stack s :=
  h.mono fun r v hv => absurd ((file_allFree E r).symm.trans hv) (Option.some_ne_none v).symm

/-- The stack while all registers are saved; ER2 was saved twice. -/
def saved (b : Cpu) (w : BitVec 32) : List (BitVec 32) :=
  [b.er 6, b.er 5, b.er 4, b.er 3, w, b.er 1, b.er 0, b.er 2]

/-- While all registers are saved, the command pointer is in ER6. -/
def savedFile (b : Cpu) : File := Function.update (b.hook.file allFree) 6 (some (b.er 1))

/-- While the hook waits, the number of delays that are left is in ER5. -/
def waitFile (b : Cpu) (n : ℕ) : File :=
  Function.update (savedFile b) 5 (some (BitVec.ofNat 32 n))

theorem ends_refused {w : BitVec 32} (h : Inside b.hook (b.hook.file allFree) (saved b w) s) :
    Ends (cpu oem) (activationCode main helper invalid sites original reset parts)
      (Refuses invalid oem b) (Code.restoreRegisters ++ (.branch 0 .invalid :: rest)) s := by
  obtain ⟨rest', hl⟩ := after_invalid main helper invalid sites original reset parts
  exact ends_restoreRegisters h fun t ht => ends_always hl (ends_refuse ht)

theorem Waits.er {k : ℕ} (h : Waits sites oem e k b) : b.er = e.er := by
  induction h with
  | start => rfl
  | round _ _ _ _ _ ih => exact ih

theorem Waits.ownStack {k : ℕ} (h : Waits sites oem e k b) :
    b.ownStack 36 = e.ownStack 36 := by
  rw [Cpu.ownStack, Cpu.ownStack, h.er]

theorem regs_waitFile {n : ℕ} {u : Cpu} (h₆ : u.er 6 = b.er 1)
    (h₅ : u.er 5 = BitVec.ofNat 32 n) :
    ∀ r v, waitFile b n r = some v → u.er r = v := by
  intro r v hv
  rw [waitFile] at hv
  by_cases hr₅ : r = 5
  · subst hr₅
    rw [Function.update_self] at hv
    exact h₅.trans (Option.some.inj hv)
  rw [Function.update_of_ne hr₅, savedFile] at hv
  by_cases hr₆ : r = 6
  · subst hr₆
    rw [Function.update_self] at hv
    exact h₆.trans (Option.some.inj hv)
  rw [Function.update_of_ne hr₆, file_allFree] at hv
  cases hv

/-- After a call with all registers saved, the hook goes on from what the call left. -/
theorem Inside.called {file : File} {w : BitVec 32} {x : List (BitVec 32)}
    (h : Inside b.hook file (x ++ saved b w) s) (target : ℕ) (file' : File)
    (hoem : oem.Respects 36 ∅) (hx : 4 * (x ++ saved b w).length ≤ 36) (hfree : file' 7 = none)
    (hregs : ∀ r v, file' r = some v → (s.call oem target).er r = v) :
    Inside (b.resumed (s.call oem target)).hook file' (x ++ saved b w) (s.call oem target) :=
  h.resume b.er rfl (hoem.regs target s 7 (by decide) (by decide))
    (fun a ha => hoem.mem target s a (Or.inl (cells_mono hx ha))) hfree hregs

section Transition

variable (hp : Placed sites e) (hoem : oem.Respects 36 ∅)
include hp hoem

/-- One look at the read engine: it is idle, or there is one more delay, or the wait is over. -/
theorem ends_round {k n : ℕ} {w : BitVec 32} (hn : k + n = 500) (hw : Waits sites oem e k b)
    (h : Inside b.hook (waitFile b n) (saved b w) s)
    (hidle : ¬ Busy (b.engine sites) → ∀ t, Inside b.hook (savedFile b) (saved b w) t →
      Ends (cpu oem) (activationCode main helper invalid sites original reset parts)
        (Transition helper invalid sites original reset parts oem e)
        (Code.move .long (.long 6) (.long 1) ::
          afterWait main helper invalid sites original reset parts) t)
    (hagain : ∀ m b' t, n = m + 1 → Waits sites oem e (k + 1) b' →
      Inside b'.hook (waitFile b' m) (saved b' w) t →
      Ends (cpu oem) (activationCode main helper invalid sites original reset parts)
        (Transition helper invalid sites original reset parts oem e)
        (waitLoop sites (afterWait main helper invalid sites original reset parts)) t) :
    Ends (cpu oem) (activationCode main helper invalid sites original reset parts)
      (Transition helper invalid sites original reset parts oem e)
      (waitLoop sites (afterWait main helper invalid sites original reset parts)) s := by
  have hl := after_readIdle main helper invalid sites original reset parts
  have hloop := after_waitReadIdle main helper invalid sites original reset parts
  obtain ⟨rest, hrefused⟩ := after_refused main helper invalid sites original reset parts
  have hengine : BitVec.ofNat 24 sites.readEngineState ∈ b.hook.kept :=
    fun ha => hp.engine (hw.ownStack ▸ ha)
  refine h.ends_loadByte rfl hengine fun t ht hb _ => ?_
  refine ht.ends_compareByte hb fun t ht hb hz _ => ?_
  refine ends_when hl hz (fun h₀ => hidle (fun hbusy => hbusy.1 h₀) t (ht.unknow rfl)) fun h₀ => ?_
  refine ht.ends_compareByte hb fun t ht _ _ hc => ?_
  refine ends_noCarry hl hc (fun h₈ => hidle (fun hbusy => h₈ hbusy.2) t (ht.unknow rfl))
    fun h₈ => ?_
  have hbusy : Busy (b.engine sites) := ⟨h₀, h₈⟩
  refine ht.ends_compareLong (ht.regs 5 _ rfl) fun t ht _ hz _ => ?_
  refine ends_when hrefused hz (fun hzero => ?_) fun hleft => ?_
  · have hn₀ : n = 0 := by
      have := congrArg BitVec.toNat hzero
      rwa [BitVec.toNat_ofNat, BitVec.toNat_ofNat, Nat.mod_eq_of_lt (by omega)] at this
    obtain rfl : k = 500 := by omega
    exact (ends_refused ((ht.unknow rfl).unknow rfl)).mono fun _ hx => .busy hw hbusy hx
  obtain ⟨m, rfl⟩ := Nat.exists_eq_succ_of_ne_zero fun hn₀ => hleft (hn₀ ▸ rfl)
  refine ht.ends_set (r := 0) (by decide) fun t ht => ?_
  have hdelays : Delays b t := ⟨ht.regs 0 _ rfl, ht.calls, ht.mem⟩
  have hcalled := ht.called (x := []) sites.schedulerDelay (waitFile b (m + 1)) hoem
    (show 32 ≤ 36 by decide) rfl (regs_waitFile
      ((hoem.regs _ t 6 (by decide) (by decide)).trans (ht.regs 6 _ rfl))
      ((hoem.regs _ t 5 (by decide) (by decide)).trans (ht.regs 5 _ rfl)))
  refine .op rfl (hcalled.ends_test (by decide) rfl fun t' ht' hz => ?_)
  refine ends_unless hrefused hz (fun hfailed => ?_) fun hdone => ?_
  · exact (ends_refused ((ht'.unknow rfl).unknow rfl)).mono fun _ hx =>
      .failed hw (by omega) hbusy hdelays hfailed hx
  · refine ht'.ends_subs (by decide) (ht'.regs 5 _ rfl) fun t' ht' => ends_always hloop ?_
    have hfile : Function.update (waitFile b (m + 1)) 5
        (some (BitVec.ofNat 32 (m + 1) - BitVec.ofNat 32 1)) = waitFile b m := by
      rw [waitFile, waitFile, Function.update_idem, BitVec.ofNat_add, BitVec.add_sub_cancel]
    exact hagain m _ t' rfl (.round hw (by omega) hbusy hdelays hdone) (hfile ▸ ht')

/-- The wait for the read engine ends busy, by a failed delay, or with the engine idle. -/
theorem ends_wait {k n : ℕ} {w : BitVec 32} (hn : k + n = 500) (hw : Waits sites oem e k b)
    (h : Inside b.hook (waitFile b n) (saved b w) s)
    (hidle : ∀ k b t, Waits sites oem e k b → ¬ Busy (b.engine sites) →
      Inside b.hook (savedFile b) (saved b w) t →
      Ends (cpu oem) (activationCode main helper invalid sites original reset parts)
        (Transition helper invalid sites original reset parts oem e)
        (Code.move .long (.long 6) (.long 1) ::
          afterWait main helper invalid sites original reset parts) t) :
    Ends (cpu oem) (activationCode main helper invalid sites original reset parts)
      (Transition helper invalid sites original reset parts oem e)
      (waitLoop sites (afterWait main helper invalid sites original reset parts)) s := by
  induction n generalizing k b s with
  | zero => exact ends_round hp hoem hn hw h (fun hi t => hidle k b t hw hi) fun m _ _ hm =>
      absurd hm (Nat.succ_ne_zero m).symm
  | succ n ih =>
    refine ends_round hp hoem hn hw h (fun hi t => hidle k b t hw hi) fun m b' t hm hw' ht => ?_
    obtain rfl := Nat.succ.inj hm
    exact ih (by omega) hw' ht

omit hp hoem in
theorem ends_copies {Q : Exit → Prop} {file : File} {stack : List (BitVec 32)} {m : Store 24}
    {copies : List (ℕ × ℕ)} (h : Inside (b.setMem m).hook file stack s) (hfile : file 2 = none)
    (hcopies : ∀ c ∈ copies, Disjoint (b.ownStack 36) (cells (BitVec.ofNat 24 c.1) 4) ∧
      Disjoint (b.ownStack 36) (cells (BitVec.ofNat 24 c.2) 4))
    (hnext : ∀ t, Inside (b.setMem (copyLongs copies m)).hook file stack t →
      Ends (cpu oem) prog Q rest t) :
    Ends (cpu oem) prog Q
      (copies.flatMap (fun c => [Code.loadLong 2 c.1, Code.storeLong 2 c.2]) ++ rest) s := by
  induction copies generalizing m s with
  | nil => exact hnext s h
  | cons c copies ih =>
    obtain ⟨hc, hcs⟩ := List.forall_mem_cons.mp hcopies
    refine h.ends_loadLong (by decide) hfile (Set.subset_compl_iff_disjoint_left.mpr hc.1)
      fun t ht h₂ => ?_
    refine ht.ends_storeLong h₂ (Set.subset_compl_iff_disjoint_left.mpr hc.2) fun t ht => ?_
    exact ih (m := store .long m (BitVec.ofNat 24 c.2) (load .long m (BitVec.ofNat 24 c.1))) ht hcs
      hnext

/-- Once the dispatcher returned, the borrowed callbacks are given back and the result decides. -/
theorem ends_dispatched {k : ℕ} {w : BitVec 32} {d : Cpu} {file : File}
    (hw : Waits sites oem e k b) (hidle : ¬ Busy (b.engine sites))
    (hguarded : Guarded sites original reset parts b.mem) (hd : Dispatches sites parts b d)
    {m : Store 24} (h : Inside (b.setMem m).hook file (0x00cf0000 :: saved b w) d) :
    Ends (cpu oem) (activationCode main helper invalid sites original reset parts)
      (Transition helper invalid sites original reset parts oem e)
      (Code.adds 4 :: Code.set 2 original :: Code.storeLong 2 sites.acquisition.cpuAddress ::
        Code.move .byte (.byte 8) (.byte 8) :: .branch 6 .refused ::
        (Code.restoreRegisters ++ (Code.answer helper invalid parts ++ Code.oem main)))
      (d.call oem sites.dispatcher) := by
  obtain ⟨rest, hrefused⟩ := after_refused main helper invalid sites original reset parts
  set u := d.call oem sites.dispatcher
  have hu : Inside (b.resumed u).hook
      (Function.update (b.hook.file allFree) 0 (some (u.er 0))) (0x00cf0000 :: saved b w) u := by
    refine Inside.called (b := b.setMem m) (x := [0x00cf0000]) h sites.dispatcher _ hoem
      (show 36 ≤ 36 by decide) rfl fun r v hv => ?_
    by_cases hr : r = 0
    · subst hr
      rw [Function.update_self] at hv
      exact Option.some.inj hv
    · rw [Function.update_of_ne hr, file_allFree] at hv
      cases hv
  refine hu.ends_drop fun s hs => ?_
  refine hs.ends_set (by decide) fun s hs => ?_
  refine hs.ends_storeLong (hs.regs 2 _ rfl)
    (Set.subset_compl_iff_disjoint_left.mpr (hw.ownStack ▸ hp.acquisition)) fun s hs => ?_
  have hstatus : s.get (.byte 8) = u.get (.byte 8) :=
    congrArg (fun v : BitVec 32 => v >>> (Reg.byte 8).low &&& (Reg.byte 8).mask)
      (hs.regs 0 (u.er 0) rfl)
  have hsettled : Inside (b.settled sites original u).hook (b.hook.file allFree) (saved b w) s :=
    (hs.unknow rfl).unknow rfl
  refine hsettled.ends_test (by decide) rfl fun s hs hz => ?_
  rw [hstatus] at hz
  refine ends_unless hrefused hz (fun hne => ?_) fun hzero => ?_
  · exact (ends_refused hs).mono fun _ hx => .rejected hw hidle hguarded hd hne hx
  · refine ends_restoreRegisters hs fun s hs => .label ?_
    exact (ends_acknowledge hoem hs).mono fun _ hx => .done hw hidle hguarded hd hzero hx

theorem ends_dispatch {k : ℕ} {w : BitVec 32} (hw : Waits sites oem e k b)
    (hidle : ¬ Busy (b.engine sites)) (hguarded : Guarded sites original reset parts b.mem)
    (h : Inside (b.setMem (switchedSlots sites parts b.asksOff b.mem)).hook (b.hook.file allFree)
      (saved b w) s) :
    Ends (cpu oem) (activationCode main helper invalid sites original reset parts)
      (Transition helper invalid sites original reset parts oem e)
      (afterSwitch main helper invalid sites original parts) s := by
  refine ends_copies h rfl (hw.ownStack ▸ hp.copies) fun s hs => ?_
  refine hs.ends_local (show 36 ≤ 36 by decide) 0x00cf0000 fun s hs => ?_
  refine hs.ends_move (r := 1) (by decide) (v := s.er 7) rfl fun t ht => ?_
  refine ht.ends_clearLong (by decide) fun t ht => ?_
  refine ht.ends_clearLong (by decide) fun t ht => ?_
  have hsecond : t.er 1 = t.er 7 := (ht.regs 1 _ rfl).trans (hs.sp.trans ht.sp.symm)
  refine .op rfl (ends_dispatched hp hoem hw hidle hguarded ⟨ht.regs 0 _ rfl, ?_, ht.regs 2 _ rfl,
    ht.calls, ht.mem⟩ ht)
  rw [hsecond]
  exact ht.pop.1

/-- Once the guards hold, the state byte of the command decides which policy is installed. -/
theorem ends_switch {k : ℕ} {w : BitVec 32} (hw : Waits sites oem e k b)
    (hidle : ¬ Busy (b.engine sites)) (hguarded : Guarded sites original reset parts b.mem)
    (h : Inside b.hook (Function.update (savedFile b) 1 (some (b.er 1))) (saved b w) s) :
    Ends (cpu oem) (activationCode main helper invalid sites original reset parts)
      (Transition helper invalid sites original reset parts oem e)
      (switchLoop sites parts (afterSwitch main helper invalid sites original parts)) s := by
  have hrestore := after_restorePolicy main helper invalid sites original reset parts
  have hreinit := after_reinit main helper invalid sites original reset parts
  have hslot : cells (BitVec.ofNat 24 sites.securitySlot) 4 ⊆ b.hook.kept :=
    Set.subset_compl_iff_disjoint_left.mpr (hw.ownStack ▸ hp.slot)
  have hacquisition : cells (BitVec.ofNat 24 sites.acquisition.cpuAddress) 4 ⊆ b.hook.kept :=
    Set.subset_compl_iff_disjoint_left.mpr (hw.ownStack ▸ hp.acquisition)
  refine h.ends_cdbByte rfl rfl (i := 6) (by decide) ?_ fun s hs hb => ?_
  · exact Set.disjoint_right.mp (hw.ownStack ▸ hp.command) (hw.er ▸ add_mem_cells (by decide))
  refine hs.ends_compareByte hb fun s hs _ hz _ => ?_
  refine ends_unless (p := b.asksOff) hrestore hz (fun hon => ?_) fun hoff => ?_
  · refine hs.ends_set (by decide) fun s hs => ?_
    refine hs.ends_storeLong (hs.regs 2 _ rfl) hslot fun s hs => .label ?_
    refine ends_dispatch (w := w) hp hoem hw hidle hguarded ?_
    rw [switchedSlots, if_neg hon]
    exact hs.forgetAll
  · refine hs.ends_set (by decide) fun s hs => ?_
    refine hs.ends_storeLong (hs.regs 2 _ rfl) hslot fun s hs => ?_
    refine hs.ends_set (by decide) fun s hs => ?_
    refine hs.ends_storeLong (hs.regs 2 _ rfl) hacquisition fun s hs => ?_
    refine ends_always hreinit (ends_dispatch (w := w) hp hoem hw hidle hguarded ?_)
    rw [switchedSlots, if_pos hoff]
    exact hs.forgetAll

theorem ends_guards {k : ℕ} {w : BitVec 32} (hw : Waits sites oem e k b)
    (hidle : ¬ Busy (b.engine sites)) (h : Inside b.hook (savedFile b) (saved b w) s) :
    Ends (cpu oem) (activationCode main helper invalid sites original reset parts)
      (Transition helper invalid sites original reset parts oem e)
      (Code.move .long (.long 6) (.long 1) ::
        afterWait main helper invalid sites original reset parts) s := by
  obtain ⟨rest, hrefused⟩ := after_refused main helper invalid sites original reset parts
  have howned := after_ownedPolicy main helper invalid sites original reset parts
  have hkept {a : ℕ} (ha : Disjoint (e.ownStack 36) (cells (BitVec.ofNat 24 a) 4)) :
      cells (BitVec.ofNat 24 a) 4 ⊆ b.hook.kept :=
    Set.subset_compl_iff_disjoint_left.mpr (hw.ownStack ▸ ha)
  have hforeign (hne : ¬ Guarded sites original reset parts b.mem) {t : Cpu} {file : File}
      (ht : Inside b.hook file (saved b w) t) :
      Ends (cpu oem) (activationCode main helper invalid sites original reset parts)
        (Transition helper invalid sites original reset parts oem e)
        (Code.restoreRegisters ++ (.branch 0 .invalid :: rest)) t :=
    (ends_refused ht.forgetAll).mono fun _ hx => .foreign hw hidle hne hx
  refine h.ends_move (by decide) (h.regs 6 _ rfl) fun s hs => ?_
  refine hs.ends_loadLong (by decide) rfl (hkept hp.acquisition) fun s hs h₂ => ?_
  refine hs.ends_compareLong h₂ fun s hs _ hz _ => ?_
  refine ends_unless hrefused hz (fun hne => hforeign (fun hg => hne hg.1) hs)
    fun hacquisition => ?_
  refine hs.ends_loadLong (by decide) rfl (hkept hp.reset) fun s hs h₂ => ?_
  refine hs.ends_compareLong h₂ fun s hs _ hz _ => ?_
  refine ends_unless hrefused hz (fun hne => hforeign (fun hg => hne hg.2.1) hs) fun hreset => ?_
  refine hs.ends_loadLong (by decide) rfl (hkept hp.slot) fun s hs h₂ => ?_
  refine hs.ends_compareLong h₂ fun s hs h₂ hz _ => ?_
  refine ends_when howned hz (fun htable => ?_) fun htable => ?_
  · exact ends_switch hp hoem hw hidle ⟨hacquisition, hreset, .inl htable⟩ hs
  refine hs.ends_compareLong h₂ fun s hs _ hz _ => ?_
  refine ends_unless hrefused hz (fun hne => ?_) fun hpolicy => .label ?_
  · exact hforeign (fun hg => hg.2.2.elim htable hne) hs
  · exact ends_switch hp hoem hw hidle ⟨hacquisition, hreset, .inr hpolicy⟩ hs

/-- A transition saves all registers, waits for the engine, and looks at the guards. -/
theorem ends_transition (h : Inside e.hook (e.hook.file [2]) [e.er 2] s) :
    Ends (cpu oem) (activationCode main helper invalid sites original reset parts)
      (Transition helper invalid sites original reset parts oem e)
      (transitionLines main helper invalid sites original reset parts) s := by
  refine h.ends_push (show 8 ≤ 36 by decide) (h.regs 0 _ rfl) fun s hs => ?_
  refine hs.ends_push (show 12 ≤ 36 by decide) (hs.regs 1 _ rfl) fun s hs => ?_
  refine hs.ends_push (show 16 ≤ 36 by decide) (v := s.er 2) rfl fun t ht => ?_
  refine ht.ends_push (show 20 ≤ 36 by decide) (ht.regs 3 _ rfl) fun t ht => ?_
  refine ht.ends_push (show 24 ≤ 36 by decide) (ht.regs 4 _ rfl) fun t ht => ?_
  refine ht.ends_push (show 28 ≤ 36 by decide) (ht.regs 5 _ rfl) fun t ht => ?_
  refine ht.ends_push (show 32 ≤ 36 by decide) (ht.regs 6 _ rfl) fun t ht => ?_
  refine ht.ends_move (r := 6) (by decide) (ht.regs 1 _ rfl) fun t ht => ?_
  refine ht.ends_set (r := 5) (by decide) fun t ht => .label ?_
  have hwait : Inside e.hook (waitFile e 500) (saved e (s.er 2)) t :=
    { ht with free := rfl, regs := regs_waitFile (ht.regs 6 _ rfl) (ht.regs 5 _ rfl) }
  exact ends_wait hp hoem (Nat.zero_add 500) .start hwait fun k b t hw hidle ht =>
    ends_guards hp hoem hw hidle ht

end Transition

/-! ## The gate -/

theorem Placed.checked (hp : Placed sites e) {cs : List (ℕ × UInt8)} (h : ∀ c ∈ cs, c.1 < 10) :
    ∀ c ∈ cs, c.1 < 2 ^ 15 ∧ addressOf (e.er 1) + BitVec.ofNat 24 c.1 ∈ e.hook.kept :=
  fun c hc => ⟨(h c hc).trans (by decide), Set.disjoint_right.mp hp.command
    (add_mem_cells (h c hc))⟩

section Gate

variable (hp : Placed sites e) (hoem : oem.Respects 36 ∅)
include hp hoem

theorem ends_identity (h : Inside e.hook (e.hook.file [2]) [e.er 2] s) :
    Ends (cpu oem) (activationCode main helper invalid sites original reset parts)
      (Answered main helper invalid sites original reset parts oem e
        (if ∀ b ∈ identityBytes, e.hook.command b.1 = b.2 then .identity else .invalid))
      (Code.checks identityBytes .invalid ++
        (Code.set 2 parts.identity :: .branch 0 .reply :: rest)) s := by
  obtain ⟨rest', hinvalid⟩ := after_invalid main helper invalid sites original reset parts
  obtain ⟨rest'', hreply⟩ := after_reply main helper invalid sites original reset parts
  refine h.ends_checks rfl rfl (hp.checked (by decide)) hinvalid (fun hne s hs => ?_)
    fun hall s hs => ?_
  · rw [if_neg hne]
    exact ends_refuse hs
  · rw [if_pos hall]
    refine hs.ends_set (by decide) fun s hs => ends_always hreply ?_
    exact ends_reply hoem hs

theorem ends_setting (h : Inside e.hook (e.hook.file [2]) [e.er 2] s) :
    Ends (cpu oem) (activationCode main helper invalid sites original reset parts)
      (Answered main helper invalid sites original reset parts oem e
        (if e.hook.command 5 ∈ acknowledged then .acknowledge
        else if e.hook.command 5 = Feature.encryption.code ∧
          e.hook.command 6 ∈ [stateOn, statePassthrough, stateOff] then .transition
        else .invalid))
      (Code.cdbByte 5 :: (acknowledged.flatMap (fun v =>
          [Code.compareByte v, .branch 7 .acknowledge]) ++
        (Code.compareByte Feature.encryption.code :: .branch 6 .invalid :: Code.cdbByte 6 ::
          ([stateOn, statePassthrough].flatMap (fun v =>
            [Code.compareByte v, .branch 7 .transition]) ++
          (Code.compareByte stateOff :: .branch 6 .invalid :: .label .transition ::
            transitionLines main helper invalid sites original reset parts))))) s := by
  obtain ⟨rest, hinvalid⟩ := after_invalid main helper invalid sites original reset parts
  obtain ⟨rest', hacknowledge⟩ := after_acknowledge main helper invalid sites original reset parts
  have htransition := after_transition main helper invalid sites original reset parts
  have hbyte {i : ℕ} (hi : i < 10) : addressOf (e.er 1) + BitVec.ofNat 24 i ∈ e.hook.kept :=
    Set.disjoint_right.mp hp.command (add_mem_cells hi)
  refine h.ends_cdbByte rfl rfl (i := 5) (by decide) (hbyte (by decide)) fun s hs hb => ?_
  refine hs.ends_matches hb hacknowledge (fun hf s hs => ?_) fun hf s hs hb => ?_
  · rw [if_pos hf]
    exact ends_acknowledge hoem hs
  rw [if_neg hf]
  refine hs.ends_compareByte hb fun s hs _ hz _ => ?_
  refine ends_unless hinvalid hz (fun hne => ?_) fun hencryption => ?_
  · rw [if_neg (not_and_of_not_left _ hne)]
    exact ends_refuse hs
  rw [if_congr (and_iff_right hencryption) rfl rfl]
  refine hs.ends_cdbByte rfl rfl (i := 6) (by decide) (hbyte (by decide)) fun s hs hb => ?_
  refine hs.ends_matches hb htransition (fun hv s hs => ?_) fun hv s hs hb => ?_
  · have hmem : e.hook.command 6 ∈ [stateOn, statePassthrough, stateOff] :=
      List.mem_append_left [stateOff] hv
    rw [if_pos hmem]
    exact ends_transition hp hoem hs
  refine hs.ends_compareByte hb fun s hs _ hz _ => ?_
  refine ends_unless hinvalid hz (fun hne => ?_) fun hoff => .label ?_
  · have hmem : e.hook.command 6 ∉ [stateOn, statePassthrough, stateOff] := fun hmem =>
      (List.mem_append.mp hmem).elim hv fun h => hne (List.mem_singleton.mp h)
    rw [if_neg hmem]
    exact ends_refuse hs
  · have hmem : e.hook.command 6 ∈ [stateOn, statePassthrough, stateOff] :=
      List.mem_append_right [stateOn, statePassthrough] (List.mem_singleton.mpr hoff)
    rw [if_pos hmem]
    exact ends_transition hp hoem hs

theorem ends_activation :
    Ends (cpu oem) (activationCode main helper invalid sites original reset parts)
      (Answered main helper invalid sites original reset parts oem e
        (request (e.mem.read (addressOf (e.er 1)) 10)))
      (activationCode main helper invalid sites original reset parts) e := by
  obtain ⟨rest, hidentity⟩ := after_identity main helper invalid sites original reset parts
  obtain ⟨rest', hinvalid⟩ := after_invalid main helper invalid sites original reset parts
  have hmain := after_foundationOem main helper invalid sites original reset parts
  have hfour : addressOf (e.er 1) + BitVec.ofNat 24 4 ∈ e.hook.kept :=
    Set.disjoint_right.mp hp.command (add_mem_cells (by decide))
  have hrequest : request (e.mem.read (addressOf (e.er 1)) 10) = _ :=
    request_map (c := e.hook.command)
  rw [hrequest]
  refine (e.hook.inside []).ends_save (show 4 ≤ 36 by decide) (by decide) fun s hs => ?_
  have henterKept := hp.checked (show ∀ c ∈ enterBytes, c.1 < 10 by decide)
  refine hs.ends_checks rfl rfl henterKept hmain (fun hne s hs => ?_) fun henter s hs => ?_
  · rw [if_pos hne]
    refine hs.ends_restore (by decide) fun t ht => ?_
    exact .leave rfl ⟨t, rfl, Inside.asEntered ht rfl⟩
  rw [if_neg (not_not.mpr henter)]
  refine hs.ends_cdbByte rfl rfl (by decide) hfour fun s hs hb => ?_
  refine hs.ends_compareByte hb fun s hs _ hz _ => ?_
  refine ends_when hidentity hz (fun hverb => ?_) fun hverb => ?_
  · rw [if_pos hverb]
    exact ends_identity hp hoem hs
  rw [if_neg hverb]
  have hsetKept := hp.checked (show ∀ c ∈ setBytes, c.1 < 10 by decide)
  refine hs.ends_checks rfl rfl hsetKept hinvalid (fun hne s hs => ?_) fun hset s hs => ?_
  · rw [if_pos hne]
    exact ends_refuse hs
  · rw [if_neg (not_not.mpr hset)]
    exact ends_setting hp hoem hs

end Gate

/-- The activation hook is assembled from its lines, and with the addresses of the placed payload in
them every run ends with the answer to its command. -/
theorem activationHook_answers (hp : Placed sites e) (hoem : oem.Respects 36 ∅) :
    (∀ H, activationHook H main helper invalid sites original reset =
      (Code.activation main helper invalid sites original reset .markers).map (item H)) ∧
    Ends (cpu oem) (Code.activation main helper invalid sites original reset parts)
      (Answered main helper invalid sites original reset parts oem e
        (request (e.mem.read (addressOf (e.er 1)) 10)))
      (Code.activation main helper invalid sites original reset parts) e :=
  ⟨fun H => Code.activationHook_eq main helper invalid sites original reset H,
    ends_activation hp hoem⟩

def sampleOff : Cpu where
  er r := if r = 1 then 0x2000 else if r = 7 then 0x7000 else 0
  zero := false
  carry := false
  mem := [(0x2000, buildSetCdb .encryption stateOff), (0xa0a966, u32ToBeBytes 0x5bf4ac),
    (0xa0b6c8, u32ToBeBytes 0x5cf000), (0x13b6, u32ToBeBytes 0x5b8fe4)].foldl
      (fun m w => Store.write m w.1 w.2) fun _ => 0
  calls := []

def sampleParts : Code.Parts where
  acquisition := 0xa08300
  data := 0x8200
  identity := 0x8240
  ownedPolicy := 0xa08100
  policy := 0xa08100

theorem placed_sampleOff : Placed .fixture sampleOff where
  command := (disjoint_cells (by decide) (by decide)).symm
  engine := fun h => absurd (mem_cells.mp h) (by decide)
  acquisition := disjoint_cells (by decide) (by decide)
  reset := disjoint_cells (by decide) (by decide)
  slot := (disjoint_cells (by decide) (by decide)).symm
  copies := fun c hc => by
    have hcopies : ∀ c ∈ Code.bufferCopies .fixture,
        (BitVec.ofNat 24 c.1).toNat + 4 ≤ 0x6fdc ∧
        ((BitVec.ofNat 24 c.2).toNat + 4 ≤ 0x6fdc ∨ 0x7000 ≤ (BitVec.ofNat 24 c.2).toNat ∧
          (BitVec.ofNat 24 c.2).toNat + 4 ≤ 2 ^ 24) := by
      decide
    obtain ⟨hsource, hdest⟩ := hcopies c hc
    refine ⟨(disjoint_cells hsource (by decide)).symm, ?_⟩
    obtain hbelow | ⟨habove, htop⟩ := hdest
    · exact (disjoint_cells hbelow (by decide)).symm
    · exact disjoint_cells habove htop

theorem activationHook_answers_sample :
    Ends (cpu fun _ s => s)
      (Code.activation 0x411000 0x412000 0x413000 .fixture 0x5bf4ac 0x5cf000 sampleParts)
      (Answered 0x411000 0x412000 0x413000 .fixture 0x5bf4ac 0x5cf000 sampleParts (fun _ s => s)
        sampleOff .transition)
      (Code.activation 0x411000 0x412000 0x413000 .fixture 0x5bf4ac 0x5cf000 sampleParts)
      sampleOff := by
  have hrequest : request (sampleOff.mem.read (addressOf (sampleOff.er 1)) 10) = .transition := by
    decide +kernel
  rw [← hrequest]
  exact (activationHook_answers placed_sampleOff (Oem.respects_id 36 ∅)).2

end FreemkvUnlock.Renesas
