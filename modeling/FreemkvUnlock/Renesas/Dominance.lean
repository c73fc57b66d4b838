import FreemkvUnlock.Bytes.Slice
import FreemkvUnlock.Graph.Cut
import FreemkvUnlock.Renesas.Encoding
import FreemkvUnlock.Renesas.ReturnPaths

/-! # The return path checks are dominance checks

Every path to a return of the dispatcher ends with the whole epilogue, and every path to a return
of the CF reset calls the cache reset. A path that avoids the instructions in whose place a return
was put is still one afterwards, because instructions do not overlap.
-/

namespace FreemkvUnlock.Renesas

open Bytes Graph Interaction Fallible Relation

variable {P : Pioneer} {H : H8} {mem cut : List UInt8} {entry a b s : ℕ} {p xs : List ℕ}

def epilogueInsns : List (List UInt8) :=
  [[0x0c, 0xd8], [0x79, 0x17, 0x00, 0x20], [0x01, 0x20, 0x6d, 0x76], [0x01, 0x00, 0x6d, 0x73]]

/-- The control flow that the library's analysis follows. -/
structure Flow (H : H8) where
  next : List UInt8 → ℕ → ℕ → Prop
  length : List UInt8 → ℕ → ℕ
  two_le_length : ∀ mem a, 2 ≤ length mem a
  /-- Where an instruction leads depends on its own bytes only. -/
  next_congr : ∀ {mem mem' a b}, mem'.length = mem.length →
    (∀ i, a ≤ i → i < a + length mem a → mem'[i]? = mem[i]?) → next mem a b → next mem' a b
  not_next_rts : ∀ {mem a b}, IsRts mem a → ¬ next mem a b
  /-- Moves, additions and multiple loads lead to the instruction after them. -/
  next_epilogue : ∀ {mem a b insn}, insn ∈ epilogueInsns →
    mem.extract a (a + insn.length) = insn → next mem a b → b = a + insn.length
  mem_reachable_iff : ∀ {mem entry xs a}, H.reachable mem entry = .ok xs →
    (a ∈ xs ↔ ReflTransGen (next mem) entry a)

def Flow.Separate (F : Flow H) (mem : List UInt8) (entry : ℕ) : Prop :=
  ∀ a b, ReflTransGen (F.next mem) entry a → ReflTransGen (F.next mem) entry b → a < b →
    a + F.length mem a ≤ b

/-! ## Cut images -/

/-- The images differ at the first two bytes of instructions in `K` only. -/
structure CutAt (mem cut : List UInt8) (K : ℕ → Prop) : Prop where
  length_eq : cut.length = mem.length
  agree : ∀ i, (∀ s, K s → i ≠ s ∧ i ≠ s + 1) → cut[i]? = mem[i]?

variable {K : ℕ → Prop}

theorem CutAt.refl : CutAt mem mem K := ⟨rfl, fun _ _ => rfl⟩

theorem CutAt.putRts (h : CutAt mem cut K) (hs : K s) : CutAt mem (putRts cut s) K := by
  refine ⟨by simpa [Renesas.putRts] using h.length_eq, fun i hi => ?_⟩
  obtain ⟨h₀, h₁⟩ := hi s hs
  rw [Renesas.putRts, List.getElem?_set_ne (Ne.symm h₁), List.getElem?_set_ne (Ne.symm h₀),
    h.agree i hi]

/-- If no return is reachable in the cut image, every path to one visits an instruction in
`K`. -/
theorem Flow.visits (F : Flow H) (hsep : F.Separate mem entry) (hcut : CutAt mem cut K)
    (hK : ∀ s, K s → ReflTransGen (F.next mem) entry s) (hbypass : H.reachable cut entry = .ok xs)
    (hxs : ∀ a ∈ xs, ¬ IsRts mem a) (hw : Walk (F.next mem) entry p a) (ha : IsRts mem a) :
    ∃ c ∈ p, K c := by
  refine hw.visits (fun c d hc hk hcd => ?_) fun hreach =>
    hxs a ((F.mem_reachable_iff hbypass).mpr hreach) ha
  refine F.next_congr hcut.length_eq (fun i hci hi => hcut.agree i fun s hs => ?_) hcd
  -- an instruction that is left in place and one that is not are two instructions apart
  have hne : c ≠ s := fun he => hk (he ▸ hs)
  rcases Nat.lt_or_gt_of_ne hne with hlt | hlt
  · have := hsep c s hc (hK s hs) hlt
    omega
  · have := hsep s c (hK s hs) hc hlt
    have := F.two_le_length mem s
    omega

/-! ## The dispatcher -/

/-- The epilogue stands at `s` and each of its instructions is reachable. -/
def Restores (mem : List UInt8) (reachable : List ℕ) (s : ℕ) : Prop :=
  mem.extract s (s + 16) = epilogue ∧
    ∀ offset ∈ ([0, 2, 6, 10] : List ℕ), s + offset ∈ reachable

theorem extract_epilogue (h : mem.extract s (s + 16) = epilogue) {i j : ℕ} (hj : j ≤ 16) :
    mem.extract (s + i) (s + j) = epilogue.extract i j := by
  rw [← h, extract_extract _ _ _ _ _ (Nat.add_le_add_left hj s)]

theorem isRts_epilogue (h : mem.extract s (s + 16) = epilogue) : IsRts mem (s + 14) :=
  extract_epilogue h (i := 14) (j := 16) (Nat.le_refl _)

theorem cutEpilogue_eq_ok_iff {state state' : ℕ × List UInt8} :
    cutEpilogue mem xs state a = .ok state' ↔
      ¬ IsRts mem a ∧ state' = state ∨
      ∃ s, a = s + 14 ∧ Restores mem xs s ∧ state' = (state.1 + 1, putRts state.2 s) := by
  rw [cutEpilogue]
  split_ifs with hrts
  · simp only [checkedSub, except_bind_eq_ok_iff, check_eq_ok_iff, pure, Except.pure,
      Except.ok.injEq]
    constructor
    · rintro ⟨s, ⟨_, h14, rfl⟩, _, hs, _, hoffsets, rfl⟩
      refine .inr ⟨a - 14, (Nat.sub_add_cancel h14).symm, ⟨?_, hoffsets⟩, rfl⟩
      rwa [show a - 14 + 16 = a + 2 by omega]
    · rintro (⟨hno, -⟩ | ⟨s, rfl, ⟨hs, hoffsets⟩, rfl⟩)
      · exact absurd hrts hno
      · exact ⟨s, ⟨(), Nat.le_add_left _ _, Nat.add_sub_cancel ..⟩, (), hs, (), hoffsets, rfl⟩
  · constructor
    · intro h
      exact .inl ⟨hrts, (Except.ok.inj h).symm⟩
    · rintro (⟨-, rfl⟩ | ⟨s, rfl, ⟨hs, -⟩, -⟩)
      · rfl
      · exact absurd (isRts_epilogue hs) hrts

/-- All reachable returns are the ends of restoring epilogues, and only these are cut. -/
theorem foldlM_cutEpilogue {as : List ℕ} {state state' : ℕ × List UInt8}
    (h : as.foldlM (cutEpilogue mem xs) state = .ok state')
    (hcut : CutAt mem state.2 (Restores mem xs)) :
    CutAt mem state'.2 (Restores mem xs) ∧ (state.1 < state'.1 → ∃ a ∈ as, IsRts mem a) := by
  induction as generalizing state with
  | nil =>
    obtain rfl := Except.ok.inj h
    exact ⟨hcut, fun hlt => absurd hlt (Nat.lt_irrefl _)⟩
  | cons a as ih =>
    rw [List.foldlM_cons] at h
    obtain ⟨next, hstep, hfold⟩ := except_bind_eq_ok_iff.mp h
    rcases cutEpilogue_eq_ok_iff.mp hstep with ⟨-, rfl⟩ | ⟨s, rfl, hs, rfl⟩
    · obtain ⟨hcut', hex⟩ := ih hfold hcut
      refine ⟨hcut', fun hlt => ?_⟩
      obtain ⟨b, hb, hrts⟩ := hex hlt
      exact ⟨b, List.mem_cons_of_mem _ hb, hrts⟩
    · exact ⟨(ih hfold (hcut.putRts hs)).1,
        fun _ => ⟨s + 14, List.mem_cons_self, isRts_epilogue hs.1⟩⟩

/-- From the start of the epilogue on there is one path to a return. -/
theorem Flow.walk_epilogue (F : Flow H) (hs : mem.extract s (s + 16) = epilogue)
    (hw : Walk (F.next mem) s p a) (ha : IsRts mem a) :
    p = [s, s + 2, s + 6, s + 10, s + 14] ∧ a = s + 14 := by
  have honly (i : ℕ) (insn : List UInt8) (hinsn : insn ∈ epilogueInsns)
      (hi : i + insn.length ≤ 16) (hpart : epilogue.extract i (i + insn.length) = insn) (c : ℕ)
      (hc : F.next mem (s + i) c) : c = s + (i + insn.length) := by
    rw [← Nat.add_assoc]
    refine F.next_epilogue hinsn ?_ hc
    rw [Nat.add_assoc, extract_epilogue hs hi, hpart]
  have hne (i : ℕ) (hi : i + 2 ≤ 16) (hpart : epilogue.extract i (i + 2) ≠ rtsCode) :
      s + i ≠ a := by
    rintro rfl
    rw [IsRts, Nat.add_assoc, extract_epilogue hs hi] at ha
    exact hpart ha
  obtain ⟨p₁, rfl, hw₁⟩ := hw.next (hne 0 (by decide) (by decide))
    (honly 0 [0x0c, 0xd8] (by decide) (by decide) rfl)
  obtain ⟨p₂, rfl, hw₂⟩ := hw₁.next (hne 2 (by decide) (by decide))
    (honly 2 [0x79, 0x17, 0x00, 0x20] (by decide) (by decide) rfl)
  obtain ⟨p₃, rfl, hw₃⟩ := hw₂.next (hne 6 (by decide) (by decide))
    (honly 6 [0x01, 0x20, 0x6d, 0x76] (by decide) (by decide) rfl)
  obtain ⟨p₄, rfl, hw₄⟩ := hw₃.next (hne 10 (by decide) (by decide))
    (honly 10 [0x01, 0x00, 0x6d, 0x73] (by decide) (by decide) rfl)
  obtain ⟨rfl, rfl⟩ := hw₄.eq_of_end fun c => F.not_next_rts (isRts_epilogue hs)
  exact ⟨rfl, rfl⟩

theorem Flow.verifyDispatcherReturns_sound (F : Flow H) {image : List UInt8} {base i : ℕ}
    (h : verifyDispatcherReturns H image base i = .ok ())
    (hsep : F.Separate (mapped image base) (imageAddress base i)) :
    (∃ a, ReflTransGen (F.next (mapped image base)) (imageAddress base i) a ∧
      IsRts (mapped image base) a) ∧
    ∀ p a, Walk (F.next (mapped image base)) (imageAddress base i) p a →
      IsRts (mapped image base) a →
      ∃ q s, p = q ++ [s, s + 2, s + 6, s + 10, s + 14] ∧ a = s + 14 ∧
        (mapped image base).extract s (s + 16) = epilogue := by
  simp only [verifyDispatcherReturns, u32TryFrom, except_bind_eq_ok_iff, check_eq_ok_iff, pure,
    Except.pure, Except.ok.injEq] at h
  obtain ⟨_, ⟨_, -, rfl⟩, xs, hxs, ⟨returns, cut⟩, hfold, _, hreturns, ys, hys, hbypass⟩ := h
  obtain ⟨hcut, hex⟩ := foldlM_cutEpilogue hfold .refl
  refine ⟨?_, fun p a hw ha => ?_⟩
  · obtain ⟨a, ha, hrts⟩ := hex hreturns
    exact ⟨a, (F.mem_reachable_iff hxs).mp ha, hrts⟩
  · obtain ⟨s, hsp, hs, -⟩ := F.visits hsep hcut
      (fun s hs => (F.mem_reachable_iff hxs).mp (hs.2 0 (by decide))) hys hbypass hw ha
    obtain ⟨q, p', rfl, hw', -⟩ := hw.split hsp
    obtain ⟨rfl, rfl⟩ := F.walk_epilogue hs hw' ha
    exact ⟨q, s, rfl, rfl, hs⟩

/-! ## The reset -/

theorem foldl_cutCalls {call : List UInt8} {as : List ℕ} (has : ∀ a ∈ as, a ∈ xs)
    (hcut : CutAt mem cut fun a => a ∈ xs ∧ mem.extract a (a + 4) = call) :
    CutAt mem
      (as.foldl (fun cut a => if mem.extract a (a + 4) = call then putRts cut a else cut) cut)
      fun a => a ∈ xs ∧ mem.extract a (a + 4) = call := by
  induction as generalizing cut with
  | nil => exact hcut
  | cons a as ih =>
    rw [List.foldl_cons]
    refine ih (fun b hb => has b (List.mem_cons_of_mem _ hb)) ?_
    split_ifs with hcall
    · exact hcut.putRts ⟨has a List.mem_cons_self, hcall⟩
    · exact hcut

theorem Flow.verifyReset_sound (F : Flow H) {image : List UInt8} {base reset : ℕ}
    (h : verifyReset H image base reset = .ok ()) :
    ∃ i call, cacheReset H image = .ok i ∧ abs H 0x5e (imageAddress base i) = .ok call ∧
      (F.Separate (mapped image base) reset →
        ∀ p a, Walk (F.next (mapped image base)) reset p a → IsRts (mapped image base) a →
          ∃ c ∈ p, (mapped image base).extract c (c + 4) = call) := by
  simp only [verifyReset, except_bind_eq_ok_iff, check_eq_ok_iff] at h
  obtain ⟨path, hpath, i, hi, call, hcall, _, -, ys, hys, hbypass⟩ := h
  refine ⟨i, call, hi, hcall, fun hsep p a hw ha => ?_⟩
  obtain ⟨c, hc, -, hcall⟩ := F.visits hsep (foldl_cutCalls (fun _ h => h) .refl)
    (fun s hs => (F.mem_reachable_iff hpath).mp hs.1) hys hbypass hw ha
  exact ⟨c, hc, hcall⟩

theorem verifyCf_reset {decodeInsn : List UInt8 → Except Fault DecodedInsn} {image : List UInt8}
    {base dispatcher : ℕ} {guard : Guard}
    (h : verifyCf P H decodeInsn image base dispatcher = .ok guard) :
    ∃ main reset, cfMain P image base guard = .ok main ∧
      cfReset P (mapped image base) main = .ok reset ∧ verifyReset H image base reset = .ok () := by
  simp only [verifyCf, except_bind_eq_ok_iff, check_eq_ok_iff, pure, Except.pure,
    Except.ok.injEq] at h
  obtain ⟨_, -, main, hmain, _, -, ⟨_, _, _⟩, -, ⟨_, _⟩, -, _, -, _, -, _, -, _, -, _, -, _, -,
    _, -, _, -, _, -, _, -, _, -, reset, hreset, _, hverify, rfl⟩ := h
  exact ⟨main, reset, hmain, hreset, hverify⟩

/-- If the checks accept, every path from the dispatcher's entry to a return ends with the whole
epilogue, there is such a return, and every path from the entry of the CF reset to a return calls
the cache reset. -/
theorem returnPaths_dominated (F : Flow H) (decodeInsn : List UInt8 → Except Fault DecodedInsn)
    (image : List UInt8) (base : ℕ) :
    (∀ i, verifyDispatcherReturns H image base i = .ok () →
      F.Separate (mapped image base) (imageAddress base i) →
      (∃ a, ReflTransGen (F.next (mapped image base)) (imageAddress base i) a ∧
        IsRts (mapped image base) a) ∧
      ∀ p a, Walk (F.next (mapped image base)) (imageAddress base i) p a →
        IsRts (mapped image base) a →
        ∃ q s, p = q ++ [s, s + 2, s + 6, s + 10, s + 14] ∧ a = s + 14 ∧
          (mapped image base).extract s (s + 16) = epilogue) ∧
    ∀ dispatcher guard, verifyCf P H decodeInsn image base dispatcher = .ok guard →
      ∃ main reset i call, cfMain P image base guard = .ok main ∧
        cfReset P (mapped image base) main = .ok reset ∧ cacheReset H image = .ok i ∧
        abs H 0x5e (imageAddress base i) = .ok call ∧
        (F.Separate (mapped image base) reset →
          ∀ p a, Walk (F.next (mapped image base)) reset p a → IsRts (mapped image base) a →
            ∃ c ∈ p, (mapped image base).extract c (c + 4) = call) := by
  refine ⟨fun i h hsep => F.verifyDispatcherReturns_sound h hsep, fun dispatcher guard h => ?_⟩
  obtain ⟨main, reset, hmain, hreset, hverify⟩ := verifyCf_reset h
  obtain ⟨i, call, hi, hcall, hpaths⟩ := F.verifyReset_sound hverify
  exact ⟨main, reset, i, call, hmain, hreset, hi, hcall, hpaths⟩

/-! ## A sample image -/

def insnLength (b : UInt8) : ℕ :=
  if b = 0x7a then 6 else if b ∈ ([0x01, 0x5e, 0x6e, 0x6f, 0x79] : List UInt8) then 4 else 2

def branchTarget (a : ℕ) (d : UInt8) : ℕ :=
  if d < 0x80 then a + 2 + d.toNat else a + 2 + d.toNat - 256

def successors (mem : List UInt8) (a : ℕ) : List ℕ :=
  match mem.extract a (a + 2) with
  | [b, d] =>
    if [b, d] = rtsCode then []
    else if b = 0x40 then [branchTarget a d]
    else if b = 0x46 ∨ b = 0x47 then [a + 2, branchTarget a d]
    else [a + insnLength b]
  | _ => []

def wordsMatch : List (ℕ × ℕ) → List UInt8 → Bool
  | [], _ => true
  | (value, mask) :: pattern, b :: b' :: bs =>
    (b.toNat * 256 + b'.toNat) &&& mask = value && wordsMatch pattern bs
  | _, _ => false

def findWords (pattern : List (ℕ × ℕ)) : List UInt8 → ℕ → Option ℕ
  | b :: b' :: bs, i =>
    if wordsMatch pattern (b :: b' :: bs) then some i else findWords pattern bs (i + 2)
  | _, _ => none

theorem findWords_le {pattern : List (ℕ × ℕ)} {bs : List UInt8} {i j : ℕ}
    (h : findWords pattern bs i = some j) : i ≤ j ∧ j < i + bs.length := by
  fun_induction findWords with
  | case1 b b' bs i =>
    obtain rfl := Option.some.inj h
    exact ⟨Nat.le_refl _, Nat.lt_add_of_pos_right (Nat.succ_pos _)⟩
  | case2 b b' bs i _ ih =>
    have := ih h
    simp only [List.length_cons]
    omega
  | case3 => cases h

/-- The sample assembler with a search by words and the analysis of the sample's control flow. -/
def flowH8 : H8 :=
  { sampleH8 with
    find := fun bs needle start =>
      match needle with
      | .word value => sampleFind bs (.word value) start
      | .bytes part => findBytes part (bs.drop start) start
      | .masked pattern => findWords pattern (bs.drop start) start
    reachable := fun mem entry => okOr (explore (successors mem) 200 [] [entry]) .other
    find_word := fun h => sampleH8.find_word h
    find_le := fun {bs needle start i} h => by
      cases needle with
      | word value =>
        have hword : sampleH8.find bs (.word value) start = some i := h
        exact sampleH8.find_le hword
      | bytes part =>
        obtain ⟨n, rfl, hn, -⟩ := findBytes_stands h
        rw [List.length_drop] at hn
        omega
      | masked pattern =>
        have := findWords_le h
        rw [List.length_drop] at this
        omega }

def sampleFlow : Flow flowH8 where
  next mem a b := b ∈ successors mem a
  length mem a := insnLength (mem.getD a 0)
  two_le_length mem a := by
    unfold insnLength
    split_ifs <;> decide
  next_congr {mem mem' a b} _ h hb := by
    have h2 : 2 ≤ insnLength (mem.getD a 0) := by unfold insnLength; split_ifs <;> decide
    have he : mem'.extract a (a + 2) = mem.extract a (a + 2) := by
      refine List.ext_getElem? fun i => ?_
      simp only [List.extract_eq_take_drop, List.getElem?_take, List.getElem?_drop]
      split_ifs with hi
      · exact h (a + i) (Nat.le_add_right _ _) (by omega)
      · rfl
    rwa [successors, he]
  not_next_rts {mem a b} h hb := by
    rw [successors, h] at hb
    exact List.not_mem_nil hb
  next_epilogue {mem a b insn} hinsn h hb := by
    have hlen : ∀ insn ∈ epilogueInsns, 2 ≤ insn.length := by decide
    have h2 : mem.extract a (a + 2) = insn.take 2 := by
      rw [← h, take_extract _ _ _ _ (Nat.add_le_add_left (hlen insn hinsn) a)]
    rw [successors, h2] at hb
    simp only [epilogueInsns, List.mem_cons, List.not_mem_nil, or_false] at hinsn
    rcases hinsn with rfl | rfl | rfl | rfl <;> exact List.mem_singleton.mp hb
  mem_reachable_iff h := mem_explore_iff (okOr_eq_ok_iff.mp h) _

theorem sampleFlow_separate {mem : List UInt8} {entry : ℕ} {ys : List ℕ}
    (h : flowH8.reachable mem entry = .ok ys)
    (hys : ∀ a ∈ ys, ∀ b ∈ ys, a < b → a + insnLength (mem.getD a 0) ≤ b) :
    sampleFlow.Separate mem entry := fun a b ha hb =>
  hys a ((sampleFlow.mem_reachable_iff h).mpr ha) b ((sampleFlow.mem_reachable_iff h).mpr hb)

def sampleDecode : List UInt8 → Except Fault DecodedInsn
  | 0xf9 :: _ => .ok ⟨.mov, [.immediate, .byteRegister 9], 2⟩
  | 0x0c :: r :: _ =>
    .ok ⟨.mov, [.byteRegister (r >>> 4).toNat, .byteRegister (r &&& 15).toNat], 2⟩
  | 0x18 :: r :: _ =>
    .ok ⟨.sub, [.byteRegister (r >>> 4).toNat, .byteRegister (r &&& 15).toNat], 2⟩
  | 0x46 :: d :: _ => .ok ⟨.bne, [.pcRelative d.toInt8.toInt], 2⟩
  | _ => .error .other

def cfImage : List UInt8 :=
  List.replicate 32 0 ++
  ([
    0x17, 0xf0, 0x0f, 0x81, 0x10, 0x30, 0x0a, 0x90, 0x10, 0x30, 0x7a, 0x10, 0, 0, 0, 0, 0x54, 0x70,
    0, 0, 0, 0, 0, 0, 0, 0, 0, 0, 0, 0, 0, 0, 0x69, 0x10, 0x5e, 0, 0, 0x20, 0x0f, 0x86, 1, 0, 0x69,
    1, 1, 0, 0x69, 0x10, 1, 0, 0x6f, 3, 0, 0x10, 0, 0, 0, 0, 0, 0, 0, 0, 0, 0, 0x7a, 0, 0, 0, 0,
    0x80, 1, 0, 0x6b, 0xa0, 0, 0xa0, 0x40, 0, 0, 0, 0, 0, 0, 0, 0, 0, 0, 0, 0, 0, 0, 0, 0, 0, 0, 0,
    0, 0, 0, 0, 0, 0, 0, 0, 0, 0, 0, 0, 0, 0, 0, 0, 0, 0, 0, 0xa0, 0, 0, 0, 0, 0, 0, 0, 0, 0, 0, 0,
    0, 1, 0x20, 0x6d, 0xf4, 0x79, 0x37, 0, 0x3c, 0x0f, 0x85, 0x5e, 0, 1, 0x40, 0x79, 1, 1, 0x3a,
    0x6f, 0xf1, 0, 0x28, 0xf9, 1, 0x0c, 0xcc, 0x46, 2, 0x18, 0x99, 0x6e, 0xf9, 0, 0x2a, 0x0f, 0xf1,
    0x79, 0x11, 0, 0x28, 0x0f, 0xd0, 0x1a, 0xa2, 0x5e, 0, 2, 0, 0xa8, 1, 0x46, 8, 0x7a, 0, 0, 0x91,
    0xc8, 0xf4, 0x40, 0x30, 0x0a, 0x0c, 0x47, 0xce, 0x79, 1, 1, 0x2b, 0x0f, 0xd0, 0x5e, 0x55, 0x57,
    0x9c, 0xf8, 0x58, 0x5e, 0x55, 0x5d, 0x88, 0x5e, 0, 1, 0x80, 0x0c, 0x88, 0x47, 0x1a, 0x79, 1, 1,
    0x3d, 0x0f, 0xd0, 0x5e, 0x55, 0x57, 0x9c, 0xa8, 1, 0x46, 0x0c, 0x7a, 0, 0, 0x91, 0xc8, 0xe2,
    0x5e, 0x54, 0xcc, 0x72, 0x40, 4, 0x18, 0x88, 0x40, 2, 0xf8, 1, 0x79, 0x17, 0, 0x3c, 1, 0x20,
    0x6d, 0x76, 0x54, 0x70, 0, 0, 0, 0, 0, 0, 0, 0, 0, 0, 0, 0, 0, 0, 0, 0, 0, 0, 0, 0, 0, 0, 0, 0,
    0, 0, 0, 0, 0, 0, 0x5e, 0, 1, 0x50, 0x54, 0x70, 0, 0, 0, 0, 0, 0, 0, 0, 0, 0, 0x18, 0x88, 0x6a,
    0xa8, 0, 0, 0x2f, 0x84, 0x6a, 0xa8, 0, 0, 0x2f, 0x86, 0x6a, 0xa8, 0, 0, 0x2f, 0x85, 0x6a, 0xa8,
    0, 0, 0x2f, 0x87, 0x6a, 0xa8, 0, 0, 0x2f, 0x88, 0x54, 0x70, 0x6a, 0x28, 0, 0, 0x2f, 0x86, 0x54,
    0x70, 0, 0, 0, 0, 0, 0, 1, 0, 0x6d, 0xf3, 0x6a, 0x28, 0, 0, 0x2f, 0x87, 0x46, 0x34, 1, 0, 0x6b,
    0x23, 0, 0, 0x13, 0xb2, 1, 0, 0x69, 0x30, 1, 0, 0x6f, 2, 1, 0, 1, 0, 0x6f, 0, 0, 0xfa, 0x0a,
    0xb0, 0x5d, 0x20, 0x0c, 0x88, 0x47, 4, 0xf8, 1, 0x40, 2, 0x18, 0x88, 0x6a, 0xa8, 0, 0, 0x2f,
    0x88, 0xf8, 1, 0x6a, 0xa8, 0, 0, 0x2f, 0x87, 0x6a, 0x28, 0, 0, 0x2f, 0x88, 1, 0, 0x6d, 0x73,
    0x54, 0x70
  ] ++ List.replicate 782 0 ++ [0, 0xa0, 0x40, 0, 0, 0])

theorem verifyCf_cfImage : verifyCf samplePioneer flowH8 sampleDecode cfImage 0 512 =
    .ok ⟨0xa04000, [0, 0, 0, 0x80]⟩ := by
  decide +kernel

theorem returnPaths_dominated_sample :
    (∃ q s, [0, 2, 6, 10, 14] = q ++ [s, s + 2, s + 6, s + 10, s + 14] ∧ 14 = s + 14 ∧
      epilogue.extract s (s + 16) = epilogue) ∧
    ∃ c ∈ [320, 324], cfImage.extract c (c + 4) = [0x5e, 0, 1, 0x50] := by
  constructor
  · obtain ⟨-, hpaths⟩ := (returnPaths_dominated (P := samplePioneer) sampleFlow sampleDecode
      epilogue 0).1 0 rfl
      (sampleFlow_separate rfl (by decide))
    refine hpaths [0, 2, 6, 10, 14] 14 ?_ rfl
    have hstep (a b : ℕ) (h : b ∈ successors epilogue a) : sampleFlow.next epilogue a b := h
    exact .cons (hstep 0 2 (by decide)) (.cons (hstep 2 6 (by decide))
      (.cons (hstep 6 10 (by decide)) (.cons (hstep 10 14 (by decide)) (.single 14))))
  · obtain ⟨main, reset, i, call, hmain, hreset, hi, hcall, hpaths⟩ :=
      (returnPaths_dominated sampleFlow sampleDecode cfImage 0).2 512 _ verifyCf_cfImage
    obtain rfl : 160 = main := Except.ok.inj (.trans (by decide +kernel) hmain)
    obtain rfl : 320 = reset := Except.ok.inj (.trans (by decide +kernel) hreset)
    obtain rfl : 336 = i := Except.ok.inj (.trans (by decide +kernel) hi)
    obtain rfl : [0x5e, 0, 1, 0x50] = call := Except.ok.inj (.trans (by decide +kernel) hcall)
    have hreach : flowH8.reachable cfImage 320 = .ok [320, 324] := by decide +kernel
    refine hpaths (sampleFlow_separate hreach (by decide +kernel)) [320, 324] 324 ?_
      (by decide +kernel)
    exact .cons (b := 324) (show 324 ∈ successors cfImage 320 by decide +kernel) (.single 324)

end FreemkvUnlock.Renesas
