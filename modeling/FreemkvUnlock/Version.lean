import FreemkvUnlock.Protocol
import Mathlib.Data.List.TakeWhile
import Mathlib.Data.Prod.Lex
import Mathlib.Tactic.Common

/-! # Versions in identity replies

A version is rendered in decimal and followed directly by the feature flags. Whatever the patch
and the flags look like, major and minor are read back as they were rendered, and the extension
decides the implementation.
-/

namespace FreemkvUnlock.Protocol

/-! ## Decimal numerals -/

def decimal (n : ℕ) : List UInt8 :=
  if n < 10 then [(0x30 + n).toUInt8] else decimal (n / 10) ++ [(0x30 + n % 10).toUInt8]

theorem toNat_digit {d : ℕ} (h : d < 10) : (0x30 + d).toUInt8.toNat = 0x30 + d := by
  rw [Nat.toUInt8_eq, UInt8.toNat_ofNat', Nat.mod_eq_of_lt (by omega)]

theorem isAsciiDigit_digit {d : ℕ} (h : d < 10) : isAsciiDigit (0x30 + d).toUInt8 = true := by
  simp only [isAsciiDigit, Bool.and_eq_true, decide_eq_true_eq, UInt8.le_iff_toNat_le,
    toNat_digit h]
  exact ⟨Nat.le_add_right _ _, Nat.add_le_add_left (Nat.le_of_lt_succ h) _⟩

theorem decimal_ne_nil (n : ℕ) : decimal n ≠ [] := by
  rw [decimal]
  split_ifs
  · exact List.cons_ne_nil _ _
  · exact List.append_ne_nil_of_right_ne_nil _ (List.cons_ne_nil _ _)

theorem isAsciiDigit_of_mem_decimal {n : ℕ} {b : UInt8} (h : b ∈ decimal n) :
    isAsciiDigit b = true := by
  induction n using Nat.strong_induction_on with
  | _ n ih =>
    rw [decimal] at h
    split_ifs at h with hn
    · rw [List.mem_singleton.mp h]
      exact isAsciiDigit_digit hn
    · rcases List.mem_append.mp h with h | h
      · exact ih (n / 10) (by omega) h
      · rw [List.mem_singleton.mp h]
        exact isAsciiDigit_digit (Nat.mod_lt n (by decide))

/-- Reading the digits of a number gives it back. -/
theorem foldl_decimal (n : ℕ) :
    (decimal n).foldl (fun n b => n * 10 + (b.toNat - 0x30)) 0 = n := by
  induction n using Nat.strong_induction_on with
  | _ n ih =>
    rw [decimal]
    split_ifs with hn
    · rw [List.foldl_cons, List.foldl_nil, toNat_digit hn]
      omega
    · rw [List.foldl_append, ih (n / 10) (by omega), List.foldl_cons, List.foldl_nil,
        toNat_digit (Nat.mod_lt n (by decide))]
      omega

theorem parseDigits_decimal {n : ℕ} (h : n < 2 ^ 32) : parseDigits (decimal n) = some n := by
  rw [parseDigits, foldl_decimal, if_pos]
  exact ⟨decimal_ne_nil n, List.all_eq_true.mpr fun _ => isAsciiDigit_of_mem_decimal, h⟩

theorem parseU32_decimal {n : ℕ} (h : n < 2 ^ 32) : parseU32 (decimal n) = some n := by
  rw [← parseDigits_decimal h]
  unfold parseU32
  split
  · rename_i s heq
    have : isAsciiDigit 0x2B = true :=
      isAsciiDigit_of_mem_decimal (n := n) (heq ▸ List.mem_cons_self)
    cases this
  · rfl

/-! ## Rendered versions -/

structure Version where
  major : ℕ
  minor : ℕ
  patch : ℕ
  major_lt : major < 2 ^ 32
  minor_lt : minor < 2 ^ 32
  patch_lt : patch < 2 ^ 32

namespace Version

def text (v : Version) : List UInt8 :=
  decimal v.major ++ 0x2E :: (decimal v.minor ++ 0x2E :: decimal v.patch)

/-- The magic, a space, the version and the feature flags. -/
def banner (v : Version) (flags : Vector UInt8 6) : List UInt8 :=
  respMagic ++ 0x20 :: (v.text ++ flags.toList)

/-- A reply of 64 bytes: the banner in the first 32, zero-padded, then the given last 32. -/
def reply (v : Version) (flags : Vector UInt8 6) (tail : Vector UInt8 32) : List UInt8 :=
  v.banner flags ++ List.replicate (32 - (v.banner flags).length) 0 ++ tail.toList

def Supported (v : Version) : Prop := toLex ((0, 9) : ℕ × ℕ) ≤ toLex (v.major, v.minor)

variable (v : Version) (flags : Vector UInt8 6) (tail : Vector UInt8 32)

theorem length_reply (h : (v.banner flags).length ≤ 32) :
    (v.reply flags tail).length = memreadLen := by
  rw [reply, List.length_append, List.length_append, List.length_replicate, Vector.length_toList,
    memreadLen]
  omega

theorem drop_reply (h : (v.banner flags).length ≤ 32) :
    (v.reply flags tail).drop extensionOffset = tail.toList := by
  refine List.drop_left' ?_
  rw [List.length_append, List.length_replicate, extensionOffset]
  omega

theorem graphic_of_digit {b : UInt8} (h : isAsciiDigit b = true) : isAsciiGraphic b = true := by
  simp only [isAsciiDigit, isAsciiGraphic, Bool.and_eq_true, decide_eq_true_eq,
    UInt8.le_iff_toNat_le] at h ⊢
  exact ⟨le_trans (by decide) h.1, le_trans h.2 (by decide)⟩

/-- The printable token that is read: the version, and what of the flags looks printable. -/
theorem parse_reply : ∃ rest, FirmwareIdentity.parse (v.reply flags tail) =
    some ⟨decimal v.major ++ 0x2E :: (decimal v.minor ++ 0x2E :: rest)⟩ := by
  have hgraphic (n : ℕ) : ∀ b ∈ decimal n, isAsciiGraphic b = true :=
    fun b hb => graphic_of_digit (isAsciiDigit_of_mem_decimal hb)
  have hdot : isAsciiGraphic 0x2E = true := rfl
  have hreply : v.reply flags tail = respMagic ++ 0x20 :: (decimal v.major ++ 0x2E ::
      (decimal v.minor ++ 0x2E :: (decimal v.patch ++ (flags.toList ++
        (List.replicate (32 - (v.banner flags).length) 0 ++ tail.toList))))) := by
    simp only [reply, banner, text, List.append_assoc, List.cons_append]
  rw [FirmwareIdentity.parse, hreply, if_pos (List.prefix_append _ _), List.drop_left]
  change ∃ rest, some (FirmwareIdentity.mk (List.takeWhile isAsciiGraphic _)) = _
  rw [List.takeWhile_append_of_pos (hgraphic _), List.takeWhile_cons_of_pos hdot,
    List.takeWhile_append_of_pos (hgraphic _), List.takeWhile_cons_of_pos hdot]
  exact ⟨_, rfl⟩

theorem majorMinor_text (rest : List UInt8) : FirmwareIdentity.majorMinor
    ⟨decimal v.major ++ 0x2E :: (decimal v.minor ++ 0x2E :: rest)⟩ = some (v.major, v.minor) := by
  have hdot (n : ℕ) : 0x2E ∉ decimal n := fun h => by cases isAsciiDigit_of_mem_decimal h
  have hminor : (decimal v.minor).takeWhile isAsciiDigit = decimal v.minor :=
    List.takeWhile_eq_self_iff.mpr fun _ => isAsciiDigit_of_mem_decimal
  rw [FirmwareIdentity.majorMinor]
  dsimp only
  rw [List.splitOn_append_cons_self_of_not_mem (hdot _),
    List.splitOn_append_cons_self_of_not_mem (hdot _)]
  dsimp only
  rw [hminor, parseU32_decimal v.major_lt, parseU32_decimal v.minor_lt]
  rfl

theorem isSupported_text (rest : List UInt8) : FirmwareIdentity.isSupported
    ⟨decimal v.major ++ 0x2E :: (decimal v.minor ++ 0x2E :: rest)⟩ = true ↔ v.Supported := by
  rw [FirmwareIdentity.isSupported, majorMinor_text, Supported, Prod.Lex.toLex_le_toLex]
  simp only [minFwVersion, Bool.or_eq_true, Bool.and_eq_true, beq_iff_eq]
  exact or_congr decide_eq_true_iff (and_congr Iff.rfl decide_eq_true_iff)

end Version

/-! ## Implementations -/

def runtimeTail : List UInt8 := pioneerExtension ++ List.replicate 24 0

theorem all_zero_iff {bs : List UInt8} {n : ℕ} (h : bs.length = n) :
    bs.all (· == 0) = true ↔ bs = List.replicate n 0 := by
  rw [List.all_eq_true, List.eq_replicate_iff]
  simp [h]

theorem runtimeTail_iff {tail : List UInt8} (h : tail.length = 32) :
    (pioneerExtension <+: tail ∧ (tail.drop pioneerExtension.length).all (· == 0) = true) ↔
      tail = runtimeTail := by
  have hdrop : (tail.drop pioneerExtension.length).length = 24 := by
    rw [List.length_drop, h]
    rfl
  rw [all_zero_iff hdrop]
  constructor
  · rintro ⟨⟨rest, rfl⟩, hrest⟩
    rw [List.drop_left] at hrest
    rw [hrest, runtimeTail]
  · rintro rfl
    exact ⟨List.prefix_append _ _, List.drop_left⟩

namespace ProtocolIdentity

variable {bytes : List UInt8} {id : FirmwareIdentity}

theorem parse_of_length_ne (h : bytes.length ≠ memreadLen) : parse bytes = none := by
  rw [parse, guard, if_neg h]
  rfl

/-- A full-length reply is read as its version and its last 32 bytes say. -/
theorem parse_of_length_eq (h : bytes.length = memreadLen)
    (hid : FirmwareIdentity.parse bytes = some id) : parse bytes =
      if id.isSupported = true then
        if bytes.drop extensionOffset = List.replicate 32 0 then some ⟨id, ⟨.firmware⟩⟩
        else if bytes.drop extensionOffset = runtimeTail then some ⟨id, ⟨.pioneerRuntime⟩⟩
        else none
      else none := by
  have htail : (bytes.drop extensionOffset).length = 32 := by rw [List.length_drop, h]; rfl
  simp only [← all_zero_iff htail, ← runtimeTail_iff htail]
  rw [parse, guard, if_pos h, hid]
  change ((guard (id.isSupported = true) : Option Unit) >>= fun _ => _) = _
  by_cases hs : id.isSupported = true
  · rw [if_pos hs, guard, if_pos hs]
    rfl
  · rw [if_neg hs, guard, if_neg hs]
    rfl

end ProtocolIdentity

/-- A reply is read as it was rendered: the version is supported from 0.9 on whatever follows it,
and the last 32 bytes name the implementation or nothing. -/
theorem parse_reply_spec :
    (∀ (v : Version) (flags : Vector UInt8 6), (v.banner flags).length ≤ 32 →
      (∃ id, FirmwareIdentity.parse (v.reply flags (Vector.replicate 32 0)) = some id ∧
        (id.isSupported = true ↔ v.Supported)) ∧
      ∀ tail : Vector UInt8 32,
        ((ProtocolIdentity.parse (v.reply flags tail)).map (·.capabilities.implementation) =
          some .firmware ↔ v.Supported ∧ tail.toList = List.replicate 32 0) ∧
        ((ProtocolIdentity.parse (v.reply flags tail)).map (·.capabilities.implementation) =
          some .pioneerRuntime ↔ v.Supported ∧ tail.toList = runtimeTail) ∧
        (ProtocolIdentity.parse (v.reply flags tail) = none ↔
          ¬ (v.Supported ∧ (tail.toList = List.replicate 32 0 ∨ tail.toList = runtimeTail)))) ∧
    ∀ bytes : List UInt8, bytes.length ≠ memreadLen → ProtocolIdentity.parse bytes = none := by
  refine ⟨fun v flags h => ⟨?_, fun tail => ?_⟩, fun _ => ProtocolIdentity.parse_of_length_ne⟩
  · obtain ⟨rest, hid⟩ := v.parse_reply flags (Vector.replicate 32 0)
    exact ⟨_, hid, v.isSupported_text rest⟩
  · obtain ⟨rest, hid⟩ := v.parse_reply flags tail
    have hne : runtimeTail ≠ List.replicate 32 0 := by decide
    rw [ProtocolIdentity.parse_of_length_eq (v.length_reply flags tail h) hid,
      v.drop_reply flags tail h]
    simp only [← v.isSupported_text rest]
    generalize List.replicate 32 (0 : UInt8) = zeros at hne ⊢
    split_ifs with hs hzero hext
    · simp [hs, hzero, hne.symm]
    · simp [hs, hext, hne]
    · simp [hzero, hext]
    · simp [hs]

def runtimeVersion : Version := ⟨0, 9, 2, by decide, by decide, by decide⟩

theorem parse_reply_spec_runtime :
    (ProtocolIdentity.parse (runtimeVersion.reply (Vector.replicate 6 statePassthrough)
      ⟨runtimeTail.toArray, rfl⟩)).map (·.capabilities.implementation) = some .pioneerRuntime ∧
    ProtocolIdentity.parse [] = none := by
  have hlen : (runtimeVersion.banner (Vector.replicate 6 statePassthrough)).length ≤ 32 := by
    simp [Version.banner, Version.text, runtimeVersion, decimal, respMagic]
  obtain ⟨-, htail⟩ := parse_reply_spec.1 runtimeVersion _ hlen
  exact ⟨(htail ⟨runtimeTail.toArray, rfl⟩).2.1.mpr
    ⟨by simp [Version.Supported, runtimeVersion], rfl⟩, parse_reply_spec.2 [] (by decide)⟩
end FreemkvUnlock.Protocol
