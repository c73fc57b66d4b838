import FreemkvUnlock.Bytes.Layout
import FreemkvUnlock.Renesas.Assemble
import FreemkvUnlock.Renesas.Drive

/-! # A concrete assembler

The H8S encodings of the generated code and an assembler that gives every branch its 16-bit form.
They satisfy the laws of the H8 library, so a hook can be assembled and installed on a sample
drive.
-/

namespace FreemkvUnlock.Renesas

open Bytes Interaction Fallible Protocol

/-! ## Encodings -/

def nibbles (high low : ℕ) : UInt8 := (high * 16 + low).toUInt8

def u16ToBeBytes (n : ℕ) : List UInt8 := [(n >>> 8).toUInt8, n.toUInt8]

def encodeMov : Operand → Operand → Except Fault (List UInt8)
  | .register (.long s), .address (.preDecrement (.long d)) =>
    .ok [0x01, 0x00, 0x6d, nibbles (8 + d) s]
  | .address (.postIncrement (.long s)), .register (.long d) =>
    .ok [0x01, 0x00, 0x6d, nibbles s d]
  | .register (.long s), .address (.indirect (.long d)) => .ok [0x01, 0x00, 0x69, nibbles (8 + d) s]
  | .register (.long s), .address (.absolute a 32) =>
    .ok ([0x01, 0x00, 0x6b, nibbles 10 s] ++ u32ToBeBytes a)
  | .address (.absolute a 32), .register (.long d) =>
    .ok ([0x01, 0x00, 0x6b, nibbles 2 d] ++ u32ToBeBytes a)
  | .address (.displacement (.long s) v 16), .register (.byte d) =>
    .ok ([0x6e, nibbles s d] ++ u16ToBeBytes v)
  | .register (.byte s), .address (.displacement (.long d) v 16) =>
    .ok ([0x6e, nibbles (8 + d) s] ++ u16ToBeBytes v)
  | .address (.displacement (.long s) v 16), .register (.word d) =>
    .ok ([0x6f, nibbles s d] ++ u16ToBeBytes v)
  | .address (.absolute a 32), .register (.byte d) => .ok ([0x6a, nibbles 2 d] ++ u32ToBeBytes a)
  | .register (.byte s), .address (.absolute a 16) => .ok ([0x6a, nibbles 8 s] ++ u16ToBeBytes a)
  | .register (.long s), .register (.long d) => .ok [0x0f, nibbles (8 + s) d]
  | .register (.word s), .register (.word d) => .ok [0x0d, nibbles s d]
  | .register (.byte s), .register (.byte d) => .ok [0x0c, nibbles s d]
  | .immediate v 8, .register (.byte d) => .ok [nibbles 15 d, v.toUInt8]
  | .immediate v 32, .register (.long d) => .ok ([0x7a, nibbles 0 d] ++ u32ToBeBytes v)
  | _, _ => .error .other

/-- The encodings that the generated code uses. -/
def encode (insn : Insn) : Except Fault (List UInt8) :=
  match insn.mnemonic, insn.source, insn.dest with
  | .mov, source, dest => encodeMov source dest
  | .cmp, .immediate v 8, .register (.byte d) => .ok [nibbles 10 d, v.toUInt8]
  | .cmp, .immediate v 32, .register (.long d) => .ok ([0x7a, nibbles 2 d] ++ u32ToBeBytes v)
  | .and, .immediate v 8, .register (.byte d) => .ok [nibbles 14 d, v.toUInt8]
  | .sub, .immediate v 32, .register (.long d) => .ok ([0x7a, nibbles 3 d] ++ u32ToBeBytes v)
  | .sub, .register (.byte s), .register (.byte d) => .ok [0x18, nibbles s d]
  | .sub, .register (.long s), .register (.long d) => .ok [0x1a, nibbles (8 + s) d]
  | .adds, .immediate 4 0, .register (.long d) => .ok [0x0b, nibbles 9 d]
  | .subs, .immediate 4 0, .register (.long d) => .ok [0x1b, nibbles 9 d]
  | .subs, .immediate 1 0, .register (.long d) => .ok [0x1b, nibbles 0 d]
  | .extu, .register (.long d), .none => .ok [0x17, nibbles 7 d]
  | .rts, .none, .none => .ok [0x54, 0x70]
  | .jsr, .address (.absolute a 24), .none => .ok (0x5e :: (u32ToBeBytes a).drop 1)
  | .jmp, .address (.absolute a 24), .none => .ok (0x5a :: (u32ToBeBytes a).drop 1)
  | _, _, _ => .error .other

/-! ## Assembly -/

def Item.size : Item → ℕ
  | .instruction bytes => bytes.length
  | .label _ => 0
  | .branch _ _ => 4

def labelOffset (l : Label) : List Item → ℕ → Option ℕ
  | [], _ => none
  | item :: items, i =>
    match item with
    | .label l' => if l' = l then some i else labelOffset l items i
    | item => labelOffset l items (i + item.size)

/-- The code of the items from offset `i` on; branches are relative to their own end. -/
def emitItems (all : List Item) : List Item → ℕ → Except Fault (List UInt8)
  | [], _ => .ok []
  | item :: items, i => do
    let rest ← emitItems all items (i + item.size)
    match item with
    | .instruction bytes => do
      check (bytes.length ≤ 10) .other
      return bytes ++ rest
    | .label _ => return rest
    | .branch condition target => do
      let offset ← okOr (labelOffset target all 0) .other
      return ([0x58, condition <<< 4] : List UInt8) ++
        u16ToBeBytes (offset + 2 ^ 16 - (i + 4)) ++ rest

theorem length_emitItems {all items : List Item} {i : ℕ} {bs : List UInt8}
    (h : emitItems all items i = .ok bs) : bs.length ≤ 10 * items.length := by
  induction items generalizing i bs with
  | nil =>
    obtain rfl := Except.ok.inj h
    exact Nat.zero_le _
  | cons item items ih =>
    obtain ⟨rest, hrest, h⟩ := except_bind_eq_ok_iff.mp h
    have := ih hrest
    rw [List.length_cons]
    cases item with
    | instruction bytes =>
      obtain ⟨_, hlen, h⟩ := except_bind_eq_ok_iff.mp h
      have := check_eq_ok_iff.mp hlen
      obtain rfl := Except.ok.inj h
      rw [List.length_append]
      omega
    | label l =>
      obtain rfl := Except.ok.inj h
      omega
    | branch condition target =>
      obtain ⟨offset, -, h⟩ := except_bind_eq_ok_iff.mp h
      obtain rfl := Except.ok.inj h
      simp only [List.length_append, List.length_cons, List.length_nil, u16ToBeBytes]
      omega

/-! ## Search -/

def findBytes (part : List UInt8) : List UInt8 → ℕ → Option ℕ
  | [], _ => none
  | b :: bs, i => if part.isPrefixOf (b :: bs) then some i else findBytes part bs (i + 1)

theorem findBytes_stands {part bs : List UInt8} {i j : ℕ} (h : findBytes part bs i = some j) :
    ∃ n, j = i + n ∧ n < bs.length ∧ Stands bs n part := by
  induction bs generalizing i with
  | nil => cases h
  | cons b bs ih =>
    rw [findBytes] at h
    split_ifs at h with hp
    · obtain rfl := Option.some.inj h
      exact ⟨0, rfl, Nat.succ_pos _, List.isPrefixOf_iff_prefix.mp hp⟩
    · obtain ⟨n, rfl, hn, hs⟩ := ih h
      exact ⟨n + 1, by omega, Nat.succ_lt_succ hn, hs⟩

def sampleSignatures : List (Needle × ℕ) :=
  [(.masked accessorSignature, 0x140), (.masked (slotAccessorSignature 0x13b6), 0x140),
    (.masked (assignmentSignature 0x2f80), 0x152),
    (.bytes ([0x5e, 0x41, 0x01, 0x40, 1, 0, 0x6b, 0xa0] ++ u32ToBeBytes 0x2f80), 0x152),
    (.masked (constructorSignature 0x13b6), 0x15e),
    (.masked (initializerSignature 0 0x410020), 0x15e),
    (.masked (tableSignature 0 0x410124), 0x16c),
    (.masked recordASignature, 0x176), (.masked vidSignature, 0x186)]

/-- Words are found by walking the bytes, the signatures of the sample image where they stand. -/
def sampleFind (bs : List UInt8) (needle : Needle) (start : ℕ) : Option ℕ :=
  match needle with
  | .word value => findBytes (u32ToBeBytes value) (bs.drop start) start
  | needle => (sampleSignatures.find? fun s => s.1 = needle ∧ start ≤ s.2 ∧ s.2 ≤ bs.length).map
      Prod.snd

theorem sampleFind_word {bs : List UInt8} {value start i : ℕ}
    (h : sampleFind bs (.word value) start = some i) :
    bs.extract i (i + 4) = u32ToBeBytes value := by
  obtain ⟨n, rfl, -, hs⟩ := findBytes_stands h
  rw [Stands, List.drop_drop] at hs
  exact stands_iff_extract.mp hs

theorem sampleFind_le {bs : List UInt8} {needle : Needle} {start i : ℕ}
    (h : sampleFind bs needle start = some i) : start ≤ i ∧ i ≤ bs.length := by
  cases needle with
  | word value =>
    obtain ⟨n, rfl, hn, -⟩ := findBytes_stands h
    rw [List.length_drop] at hn
    omega
  | masked pattern =>
    obtain ⟨s, hs, rfl⟩ := Option.map_eq_some_iff.mp h
    have := List.find?_some hs
    simp only [decide_eq_true_eq] at this
    exact this.2
  | bytes part =>
    obtain ⟨s, hs, rfl⟩ := Option.map_eq_some_iff.mp h
    have := List.find?_some hs
    simp only [decide_eq_true_eq] at this
    exact this.2

def sampleH8 : H8 where
  encodeInsn := encode
  finish items := emitItems items items 0
  find := sampleFind
  readU16 bs i := if i + 2 ≤ bs.length then some (fromBytesBe (bs.extract i (i + 2))) else none
  reachable _ entry := .ok [entry]
  finish_length := length_emitItems
  find_word := sampleFind_word
  find_le := sampleFind_le

/-! ## A sample image -/

def sampleSurvey : Survey where
  memoryCall _ _ _ _ _ := .ok 0x410300
  controllerError _ _ _ := .ok 0x410310
  eligibilityState _ := .ok (0x2f87, 0x2f88, 0x2f80)
  loadedState _ _ _ := .ok 0x2f86
  internalDispatcher _ _ := .ok 0x410330
  verifyCf _ _ _ := .ok ⟨0xa0b6c8, [0, 0, 0, 0]⟩
  acquisitionGuard _ _ := .ok ⟨0xa0a966, [0, 0, 0, 0]⟩
  activationBuffers _ := .ok (0x2a10, 0xa027f4)
  verifyBufferOwner _ _ _ _ _ := .ok ()
  readEngineState _ := .ok 0x2c46
  schedulerDelay _ := .ok 0x410320

/-- A codec for the sample image, whose READ BUFFER object stands at `pointer`. -/
def imagePioneer (pointer : ℕ) : Pioneer :=
  { samplePioneer with
    readBufferSite := fun _ _ => .ok ⟨pointer, 0x410200, 0x410018, 0x41001a, 0x4102c0⟩
    opcodeSite := fun _ _ opcode => .ok (if opcode = 0xad
      then ⟨0xe28, 0x410280, 0x410018, 0x41001a, 0x4102c2⟩
      else ⟨0xe24, 0x410240, 0x410018, 0x41001a, 0x4102c0⟩)
    freeRanges := fun windows occupied alignment => .ok (windows.filter fun w =>
      (∀ o ∈ occupied, w.Disjoint o) ∧ alignment ∣ w.start)
    freeRanges_window := fun h r hr => by
      obtain rfl := Except.ok.inj h
      exact ⟨r, (List.mem_filter.mp hr).1, Range.contains_refl r⟩
    freeRanges_disjoint := fun h r hr => by
      obtain rfl := Except.ok.inj h
      have := (List.mem_filter.mp hr).2
      simp only [decide_eq_true_eq] at this
      exact this.1 }

/-- The signatures of the sample image: the object accessor, its assignment, the constructors of
the security object and of the next table, the eligibility method, and the Volume ID reader. -/
def signatures : List UInt8 :=
  [0x7a, 0x00, 0x00, 0x00, 0x00, 0x00, 0x5e, 0x41, 0x03, 0x40,
    0x7a, 0x00, 0x00, 0x00, 0x13, 0xb6, 0x54, 0x70] ++
  [0x5e, 0x41, 0x01, 0x40, 0x01, 0x00, 0x6b, 0xa0, 0x00, 0x00, 0x2f, 0x80] ++
  [0x7a, 0x00, 0x00, 0x41, 0x00, 0x20, 0x01, 0x00, 0x6b, 0xa0, 0x00, 0x00, 0x13, 0xb6] ++
  [0x7a, 0x00, 0x00, 0x41, 0x01, 0x24, 0x01, 0x00, 0x69, 0x80] ++
  [0x6d, 0xf3, 0x18, 0xbb, 0xf8, 0x02, 0x5e, 0x41, 0x03, 0x50, 0x5e, 0x41, 0x03, 0x60,
    0xa8, 0x21] ++
  [0x6a, 0x08, 0xed, 0x3c, 0x77, 0x18, 0x44, 0x00, 0x0c, 0x99, 0x46, 0x00, 0x7a, 0x00, 0x00, 0x00,
    0x00, 0x00, 0x5e, 0x41, 0x03, 0x70, 0x19, 0x33, 0x7a, 0x06, 0xff, 0xff, 0xed, 0x20,
    0x0d, 0x31, 0x17, 0x71, 0x0f, 0x90, 0x0a, 0xe0, 0x68, 0x0c, 0x0f, 0x90, 0x0a, 0xd0,
    0x68, 0x8c]

/-- Memory of a drive with the sample image: two callbacks follow the header, then the security
table at 0x410020 with its one method, then the signatures. -/
def imageMemory (pointer : ℕ) : Memory := fun x =>
  if 0x410200 ≤ x then if x = 0xa00ffc ∨ x = 0xa00ffd then 0xa5 else 0
  else [(0x410000, normalMagic), (0x410014, u32ToBeBytes 0x1100),
    (0x410018, [0x54, 0x70, 0x18, 0x88, 0x54, 0x70]), (0x410120, u32ToBeBytes 0x410176),
    (0x410140, signatures), (pointer, u32ToBeBytes 0x410200),
    (0xe24, u32ToBeBytes 0x410240), (0xe28, u32ToBeBytes 0x410280),
    (0x13b6, u32ToBeBytes 0x410020)].foldl (fun M w => Memory.overwrite M w.1 w.2) (fun _ => 0) x

theorem run_prepare_image : ∃ τ p,
    Run (prepare ((imagePioneer 0xe20).assembling sampleH8 sampleSurvey) false).run τ (.ok p) := by
  have h : ((exec (memoryDrive (sampleRespond true))
      (prepare ((imagePioneer 0xe20).assembling sampleH8 sampleSurvey) false).run
      (imageMemory 0xe20)).map fun r => r.1.isOk) = some true := by decide +kernel
  obtain ⟨⟨r, τ, M⟩, he, hok⟩ := Option.map_eq_some_iff.mp h
  cases r with
  | error e => cases hok
  | ok p => exact ⟨τ, p, run_of_exec he⟩

end FreemkvUnlock.Renesas
