import FreemkvUnlock.Bytes.Chunks
import FreemkvUnlock.Interaction.Termination
import FreemkvUnlock.Renesas.Drive

/-! # Reading the firmware image

The image is read in chunks, each of which must come back whole. The loop goes on from what it has
received, so a run asks for the chunks of the image in order, stops at the first that does not
come back whole, and has the image when none is left.
-/

namespace FreemkvUnlock.Renesas

open Bytes Interaction Fallible

/-! ## One command -/

section Command

variable {cdb data : List UInt8} {dir : DataDirection} {τ : List (Event Scsi)}
  {r : Except Fault CdbReply}

/-- A command is refused before or after it is sent, or its reply holds what was transferred. -/
theorem run_genericCdb (h : Run (genericCdb cdb dir data).run τ r) :
    (∃ fault, r = .error fault ∧ (τ = [] ∨ ∃ o, τ = [⟨.execute cdb dir data timeoutMs, o⟩])) ∨
    ∃ (o : Outcome data.length) (s : ScsiResult), τ = [⟨.execute cdb dir data timeoutMs, o⟩] ∧
      o.result = .ok s ∧ s.bytesTransferred ≤ data.length ∧
      r = .ok ⟨s.status, s.bytesTransferred,
        if dir = .fromDevice then o.data.toList.take s.bytesTransferred else []⟩ := by
  rcases run_ensure_seq_iff.mp h with ⟨-, rfl, rfl⟩ | ⟨-, h⟩
  · exact .inl ⟨_, rfl, .inl rfl⟩
  rcases run_ensure_seq_iff.mp h with ⟨-, rfl, rfl⟩ | ⟨-, h⟩
  · exact .inl ⟨_, rfl, .inl rfl⟩
  rcases run_ensure_seq_iff.mp h with ⟨-, rfl, rfl⟩ | ⟨-, h⟩
  · exact .inl ⟨_, rfl, .inl rfl⟩
  rcases run_fallible_bind_iff.mp h with ⟨fault, -, h₁⟩ | ⟨τ₁, o, τ₂, rfl, h₁, h₂⟩
  · obtain ⟨o, -, ho⟩ := run_lift_iff.mp h₁
    cases ho
  obtain rfl := run_ask_iff.mp (run_lift_ok_iff.mp h₁)
  rcases run_result_seq_iff.mp h₂ with ⟨fault, -, rfl, rfl⟩ | ⟨s, hs, h₃⟩
  · exact .inl ⟨fault, rfl, .inr ⟨o, rfl⟩⟩
  rcases run_ensure_seq_iff.mp h₃ with ⟨-, rfl, rfl⟩ | ⟨hle, h₄⟩
  · exact .inl ⟨_, rfl, .inr ⟨o, rfl⟩⟩
  obtain ⟨rfl, rfl⟩ := run_fallible_pure_iff.mp h₄
  rcases hr : o.result with err | s' <;> rw [hr] at hs
  · cases hs
  · obtain rfl := Except.ok.inj hs
    exact .inr ⟨o, s', rfl, hr, hle, rfl⟩

theorem settles_genericCdb {σ : Type} {h : Handler Scsi σ} :
    Settles h fun _ => (genericCdb cdb dir data).run :=
  .seq (.ensure _ _) fun _ => .seq (.ensure _ _) fun _ => .seq (.ensure _ _) fun _ =>
    .seq (.lift (.ask _)) fun _ => .seq (.result _) fun _ => .seq (.ensure _ _) fun _ => .ret _

end Command

/-! ## Reads of the image -/

variable (P : Pioneer)

def readAt (a n : ℕ) : Op :=
  .execute (P.readMemory a n) .fromDevice (List.replicate n 0) timeoutMs

def readOp (c : Range) : Op := readAt P c.start c.length

/-- The ranges that are read for an image of `n` bytes: its header, and then its chunks. -/
def imageReads (n : ℕ) : List Range := .sized 0x410000 256 :: chunks 4096 0x410000 n

/-- A read of the image's window that succeeds brings, as far as it goes, what the drive holds in
the range it names. -/
def Serves (M : Memory) (e : Event Scsi) : Prop :=
  ∀ (a n : ℕ) (o : Outcome (List.replicate n (0 : UInt8)).length) (s : ScsiResult),
    0x410000 ≤ a → a + n ≤ 0x800000 → e = ⟨readAt P a n, o⟩ → o.result = .ok s → s.status = 0 →
    o.data.toList.take s.bytesTransferred = (M.slice a n).take s.bytesTransferred

def Whole (e : Event Scsi) : Prop :=
  ∃ (cdb : List UInt8) (dir : DataDirection) (data : List UInt8) (ms : ℕ)
    (o : Outcome data.length) (s : ScsiResult), e = ⟨.execute cdb dir data ms, o⟩ ∧
      o.result = .ok s ∧ s.status = 0 ∧ s.bytesTransferred = data.length

/-- The reads of `cs` are asked for in order up to the first that does not come back whole; when
all do, the result is `bytes`. -/
structure Collects (cs : List Range) (bytes : List UInt8) (τ : List (Event Scsi))
    (r : Except Fault (List UInt8)) : Prop where
  asked : τ.map Sigma.fst <+: cs.map (readOp P)
  exact : ∀ image, r = .ok image → image = bytes ∧ τ.map Sigma.fst = cs.map (readOp P)
  fails : (∃ e ∈ τ, ¬ Whole e) → ∃ fault, r = .error fault

variable {P} {M : Memory} {a n : ℕ} {τ : List (Event Scsi)} {r : Except Fault (List UInt8)}
  {cs : List Range} {bytes : List UInt8}

theorem map_readOp_cons :
    (Range.sized a n :: cs).map (readOp P) = readAt P a n :: cs.map (readOp P) := by
  rw [List.map_cons, readOp, Range.length_sized, Range.start_sized]

theorem prefix_map_readOp {ops : List Op} (h : ops <+: cs.map (readOp P)) :
    readAt P a n :: ops <+: (Range.sized a n :: cs).map (readOp P) := by
  rw [map_readOp_cons]
  exact List.cons_prefix_cons.mpr ⟨rfl, h⟩

theorem Collects.length_le (h : Collects P cs bytes τ r) : τ.length ≤ cs.length :=
  calc τ.length = (τ.map Sigma.fst).length := (List.length_map _).symm
    _ ≤ (cs.map (readOp P)).length := h.asked.length_le
    _ = cs.length := List.length_map _

theorem Collects.stop {fault : Fault} (hr : r = .error fault)
    (h : τ = [] ∨ ∃ o, τ = [⟨readAt P a n, o⟩]) : Collects P (.sized a n :: cs) bytes τ r where
  asked := by
    rcases h with rfl | ⟨o, rfl⟩
    · exact List.nil_prefix
    · exact prefix_map_readOp List.nil_prefix
  exact := by
    subst hr
    nofun
  fails _ := ⟨fault, hr⟩

theorem Collects.cons {o : (readAt P a n).Answer} (hw : Whole ⟨readAt P a n, o⟩)
    (h : Collects P cs bytes τ r) :
    Collects P (.sized a n :: cs) bytes (⟨readAt P a n, o⟩ :: τ) r where
  asked := prefix_map_readOp h.asked
  exact image hr := ⟨(h.exact image hr).1,
    (congrArg (readAt P a n :: ·) (h.exact image hr).2).trans map_readOp_cons.symm⟩
  fails := by
    rintro ⟨e, he, hbad⟩
    rcases List.mem_cons.mp he with rfl | he
    · exact absurd hw hbad
    · exact h.fails ⟨e, he, hbad⟩

theorem run_readWhole {α : Type} {rest : CdbReply → Hook α} {r : Except Fault α}
    (h : Run (genericCdb (P.readMemory a n) .fromDevice (List.replicate n 0) >>= fun reply =>
      ensure (reply.status = 0 ∧ reply.transferred = n) .other >>= fun _ => rest reply).run τ r) :
    (∃ fault, r = .error fault ∧ (τ = [] ∨ ∃ o, τ = [⟨readAt P a n, o⟩])) ∨
    ∃ (o : Outcome (List.replicate n (0 : UInt8)).length) (s : ScsiResult)
      (τ' : List (Event Scsi)), τ = ⟨readAt P a n, o⟩ :: τ' ∧ o.result = .ok s ∧ s.status = 0 ∧
      s.bytesTransferred = n ∧
      Run (rest ⟨s.status, s.bytesTransferred, o.data.toList.take s.bytesTransferred⟩).run
        τ' r := by
  rcases run_fallible_bind_iff.mp h with ⟨fault, rfl, h₁⟩ | ⟨τ₁, reply, τ₂, rfl, h₁, h₂⟩
  · rcases run_genericCdb h₁ with ⟨fault', -, hτ⟩ | ⟨o, s, -, -, -, he⟩
    · exact .inl ⟨fault, rfl, hτ⟩
    · cases he
  rcases run_genericCdb h₁ with ⟨_, he, -⟩ | ⟨o, s, rfl, ho, -, hreply⟩
  · cases he
  obtain rfl := Except.ok.inj hreply
  rcases run_ensure_seq_iff.mp h₂ with ⟨-, rfl, rfl⟩ | ⟨⟨hs, hlen⟩, h₃⟩
  · exact .inl ⟨_, rfl, .inr ⟨o, rfl⟩⟩
  · exact .inr ⟨o, s, τ₂, rfl, ho, hs, hlen, h₃⟩

theorem Serves.data {o : Outcome (List.replicate n (0 : UInt8)).length} {s : ScsiResult}
    (h : Serves P M ⟨readAt P a n, o⟩) (ha : 0x410000 ≤ a) (hn : a + n ≤ 0x800000)
    (ho : o.result = .ok s) (hs : s.status = 0) (hlen : s.bytesTransferred = n) :
    o.data.toList.take s.bytesTransferred = M.slice a n := by
  rw [h a n o s ha hn rfl ho hs, hlen, List.take_of_length_le Memory.length_slice.le]

theorem whole_of_ok {o : Outcome (List.replicate n (0 : UInt8)).length} {s : ScsiResult}
    (ho : o.result = .ok s) (hs : s.status = 0) (hlen : s.bytesTransferred = n) :
    Whole ⟨readAt P a n, o⟩ :=
  ⟨_, _, _, _, o, s, rfl, ho, hs, by rw [hlen, List.length_replicate]⟩

/-- The loop from `k` bytes on. -/
theorem run_loadBody (hn : n ≤ 0x3f0000) (fuel : ℕ) : ∀ (k : ℕ) (τ : List (Event Scsi)), k ≤ n →
    (∀ e ∈ τ, Serves P M e) → Run (loadBody P n fuel (M.slice 0x410000 k)).run τ r →
    Collects P (chunks 4096 (0x410000 + k) (n - k)) (M.slice 0x410000 n) τ r := by
  induction fuel with
  | zero =>
    intro k τ hk hserves h
    cases h
  | succ fuel ih =>
    intro k τ hk hserves h
    rw [loadBody, Memory.length_slice] at h
    split_ifs at h with hlt
    · have haddr : (0x410000 + k) % 2 ^ 32 = 0x410000 + k := Nat.mod_eq_of_lt (by omega)
      simp only [haddr] at h
      rw [chunks_of_pos (by decide) (by omega)]
      rcases run_readWhole h with ⟨fault, rfl, hτ⟩ | ⟨o, s, τ', rfl, ho, hs, hlen, hrest⟩
      · exact .stop rfl hτ
      · refine .cons (whole_of_ok ho hs hlen) ?_
        have hdata := (hserves _ List.mem_cons_self).data (by omega) (by omega) ho hs hlen
        rw [hdata, ← Memory.slice_add] at hrest
        have hall := ih _ _ (by omega) (fun e he => hserves e (List.mem_cons_of_mem _ he)) hrest
        rwa [← Nat.add_assoc, Nat.sub_add_eq] at hall
    · obtain rfl : k = n := by omega
      obtain ⟨rfl, rfl⟩ := run_fallible_pure_iff.mp h
      rw [Nat.sub_self, chunks_zero (by decide)]
      refine ⟨List.prefix_rfl, fun image hr => ⟨(Except.ok.inj hr).symm, rfl⟩, ?_⟩
      rintro ⟨e, he, -⟩
      cases he

theorem run_loadNormal (hmagic : normalMagic <+: M.slice 0x410000 256)
    (hlength : P.readU32 (M.slice 0x410000 256) 20 = some n) (hn : 0x1100 ≤ n ∧ n ≤ 0x3f0000)
    (hserves : ∀ e ∈ τ, Serves P M e) (h : Run (loadNormal P).run τ r) :
    Collects P (imageReads n) (M.slice 0x410000 n) τ r := by
  rcases run_readWhole h with ⟨fault, rfl, hτ⟩ | ⟨o, s, τ', rfl, ho, hs, hlen, hrest⟩
  · exact .stop rfl hτ
  refine .cons (whole_of_ok ho hs hlen) ?_
  have hdata := (hserves _ List.mem_cons_self).data le_rfl (by decide) ho hs hlen
  rw [hdata] at hrest
  have hnamed := (run_ensure_seq_iff.mp hrest).resolve_left fun hfail => hfail.1 hmagic
  rcases run_result_seq_iff.mp hnamed.2 with ⟨fault, hfail, -⟩ | ⟨n', hn', hbody⟩
  · rw [hlength] at hfail
    cases hfail
  obtain rfl : n = n' := Option.some.inj (hlength.symm.trans (okOr_eq_ok_iff.mp hn'))
  have hloop := (run_ensure_seq_iff.mp hbody).resolve_left fun hfail => hfail.1 hn
  exact run_loadBody hn.2 _ 0 τ' (Nat.zero_le n)
    (fun e he => hserves e (List.mem_cons_of_mem _ he)) hloop.2

theorem settles_loadBody {σ : Type} {h : Handler Scsi σ} (fuel : ℕ) : ∀ image : List UInt8,
    n - image.length < fuel → Settles h fun _ => (loadBody P n fuel image).run := by
  induction fuel with
  | zero =>
    intro image hfuel
    omega
  | succ fuel ih =>
    intro image hfuel
    rw [loadBody]
    split_ifs with hlt
    · refine .seq_of_run settles_genericCdb fun reply τ hreply => ?_
      refine .seq_of_run (.ensure _ _) fun _ τ' hensure => ih _ ?_
      obtain ⟨-, -, htransferred⟩ := run_ensure_ok_iff.mp hensure
      rcases run_genericCdb hreply with ⟨_, he, -⟩ | ⟨o, s, -, -, hle, he⟩
      · cases he
      · obtain rfl := Except.ok.inj he
        have hlen : (o.data.toList.take s.bytesTransferred).length = s.bytesTransferred := by
          rw [List.length_take, Vector.length_toList, min_eq_left hle]
        simp only [if_true, List.length_append, hlen] at htransferred ⊢
        omega
    · exact .ret _

theorem settles_loadNormal {σ : Type} {h : Handler Scsi σ} :
    Settles h fun _ => (loadNormal P).run :=
  .seq settles_genericCdb fun _ => .seq (.ensure _ _) fun _ => .seq (.ensure _ _) fun _ =>
    .seq (.result _) fun n => .seq (.ensure _ _) fun _ => settles_loadBody (n + 1) [] (by simp)

/-- For an image whose header names `n` bytes, the reads tile the image in chunks of at most 4096
bytes. Loading ends with every drive. On a drive that serves its memory a run asks for these reads
in order; if it succeeds it has asked for all of them and has exactly the image, and if one did
not come back whole it fails. -/
theorem loadNormal_exact (P : Pioneer) (M : Memory) (n : ℕ)
    (hmagic : normalMagic <+: M.slice 0x410000 256)
    (hlength : P.readU32 (M.slice 0x410000 256) 20 = some n) (hn : 0x1100 ≤ n ∧ n ≤ 0x3f0000) :
    (Tiles 0x410000 (0x410000 + n) (chunks 4096 0x410000 n) ∧
      (∀ c ∈ chunks 4096 0x410000 n, c.length ≤ 4096) ∧
      ∀ x, (chunks 4096 0x410000 n).countP (x ∈ ·) =
        if 0x410000 ≤ x ∧ x < 0x410000 + n then 1 else 0) ∧
    (∀ (σ : Type) (h : Handler Scsi σ) (s : σ), (exec h (loadNormal P).run s).isSome) ∧
    ∀ τ r, (∀ e ∈ τ, Serves P M e) → Run (loadNormal P).run τ r →
      τ.map Sigma.fst <+: (imageReads n).map (readOp P) ∧
      τ.length ≤ (n + 4095) / 4096 + 1 ∧
      (∀ image, r = .ok image →
        image = M.slice 0x410000 n ∧ τ.map Sigma.fst = (imageReads n).map (readOp P)) ∧
      ((∃ e ∈ τ, ¬ Whole e) → ∃ fault, r = .error fault) := by
  have htiles : Tiles 0x410000 (0x410000 + n) (chunks 4096 0x410000 n) :=
    tiles_chunks (by decide)
  refine ⟨⟨htiles, fun c => length_le_of_mem_chunks, htiles.countP⟩, fun σ h s => ?_,
    fun τ r hserves h => ?_⟩
  · obtain ⟨r, N, hN⟩ := settles_loadNormal s
    rw [hN N le_rfl]
    rfl
  · have hall := run_loadNormal hmagic hlength hn hserves h
    refine ⟨hall.asked, ?_, hall.exact, hall.fails⟩
    have hle := hall.length_le
    rwa [imageReads, List.length_cons, length_chunks] at hle

/-! ## A drive that serves every read -/

def served (P : Pioneer) (M : Memory) (a n : ℕ) : Event Scsi :=
  ⟨readAt P a n, ⟨.ok ⟨0, n, Vector.replicate 32 0⟩, ⟨(M.slice a n).toArray, by simp⟩⟩⟩

theorem run_readWhole_served {α : Type} {rest : CdbReply → Hook α} {r : Except Fault α}
    (hcdb : (P.readMemory a n).length ∈ [6, 10, 12, 16]) (hn : n ≤ 4096)
    (h : Run (rest ⟨0, n, M.slice a n⟩).run τ r) :
    Run (genericCdb (P.readMemory a n) .fromDevice (List.replicate n 0) >>= fun reply =>
      ensure (reply.status = 0 ∧ reply.transferred = n) .other >>= fun _ => rest reply).run
      (served P M a n :: τ) r := by
  have hcommand : Run (genericCdb (P.readMemory a n) .fromDevice (List.replicate n 0)).run
      [served P M a n] (.ok ⟨0, n, M.slice a n⟩) := by
    refine run_ensure_seq_iff.mpr (.inr ⟨hcdb, run_ensure_seq_iff.mpr (.inr ⟨?_,
      run_ensure_seq_iff.mpr (.inr ⟨.inl nofun, ?_⟩)⟩)⟩)
    · rwa [List.length_replicate]
    · refine run_fallible_bind_iff.mpr (.inr ⟨_, _, [], rfl, run_lift_ok_iff.mpr
        (run_ask_iff.mpr rfl), run_result_seq_iff.mpr (.inr ⟨_, rfl, ?_⟩)⟩)
      refine run_ensure_seq_iff.mpr (.inr ⟨(List.length_replicate).ge, ?_⟩)
      refine run_fallible_pure_iff.mpr ⟨rfl, ?_⟩
      simp
  exact run_fallible_bind_iff.mpr (.inr ⟨_, _, τ, rfl, hcommand,
    run_ensure_seq_iff.mpr (.inr ⟨⟨rfl, rfl⟩, h⟩)⟩)

def servedReads (P : Pioneer) (M : Memory) (cs : List Range) : List (Event Scsi) :=
  cs.map fun c => served P M c.start c.length

theorem servedReads_cons : servedReads P M (.sized a n :: cs) =
    served P M a n :: servedReads P M cs := by
  rw [servedReads, List.map_cons, Range.length_sized, Range.start_sized]
  rfl

theorem run_loadBody_served (hcdb : ∀ a n, (P.readMemory a n).length ∈ [6, 10, 12, 16])
    (hn : n ≤ 0x3f0000) (fuel : ℕ) : ∀ k ≤ n, n - k < fuel →
    Run (loadBody P n fuel (M.slice 0x410000 k)).run
      (servedReads P M (chunks 4096 (0x410000 + k) (n - k))) (.ok (M.slice 0x410000 n)) := by
  induction fuel with
  | zero =>
    intro k hk hfuel
    omega
  | succ fuel ih =>
    intro k hk hfuel
    rw [loadBody, Memory.length_slice]
    split_ifs with hlt
    · have haddr : (0x410000 + k) % 2 ^ 32 = 0x410000 + k := Nat.mod_eq_of_lt (by omega)
      simp only [haddr]
      rw [chunks_of_pos (by decide) (by omega), servedReads_cons]
      refine run_readWhole_served (hcdb _ _) (min_le_left _ _) ?_
      have hrest := ih (k + min 4096 (n - k)) (by omega) (by omega)
      rwa [← Nat.add_assoc, Nat.sub_add_eq, Memory.slice_add] at hrest
    · obtain rfl : k = n := by omega
      rw [Nat.sub_self, chunks_zero (by decide)]
      exact run_fallible_pure_iff.mpr ⟨rfl, rfl⟩

/-- On a drive that serves every read the image is loaded. -/
theorem run_loadNormal_served (hcdb : ∀ a n, (P.readMemory a n).length ∈ [6, 10, 12, 16])
    (hmagic : normalMagic <+: M.slice 0x410000 256)
    (hlength : P.readU32 (M.slice 0x410000 256) 20 = some n) (hn : 0x1100 ≤ n ∧ n ≤ 0x3f0000) :
    Run (loadNormal P).run (servedReads P M (imageReads n)) (.ok (M.slice 0x410000 n)) := by
  rw [imageReads, servedReads_cons]
  refine run_readWhole_served (hcdb _ _) (by decide) (run_ensure_seq_iff.mpr (.inr ⟨hmagic, ?_⟩))
  refine run_result_seq_iff.mpr (.inr ⟨n, okOr_eq_ok_iff.mpr hlength, ?_⟩)
  refine run_ensure_seq_iff.mpr (.inr ⟨hn, ?_⟩)
  exact run_loadBody_served hcdb hn.2 _ 0 (Nat.zero_le n) (by omega)

theorem serves_served (hinj : ∀ {a b n}, a < 2 ^ 24 → b < 2 ^ 24 →
    P.readMemory a n = P.readMemory b n → a = b) (ha : a < 2 ^ 24) :
    Serves P M (served P M a n) := by
  rintro b m o s hb hm he ho -
  obtain ⟨hop, hanswer⟩ := Sigma.mk.inj he
  obtain ⟨hcdb, -, hdata, -⟩ := Op.execute.inj hop
  obtain rfl : n = m := by simpa using congrArg List.length hdata
  obtain rfl := hinj ha (by omega) hcdb
  obtain rfl := eq_of_heq hanswer
  simp

theorem samplePioneer_readMemory_inj {a b n : ℕ} (ha : a < 2 ^ 24) (hb : b < 2 ^ 24)
    (h : samplePioneer.readMemory a n = samplePioneer.readMemory b n) : a = b := by
  have hbytes : (u32ToBeBytes a).drop 1 = (u32ToBeBytes b).drop 1 := by
    simpa [samplePioneer] using h
  obtain ⟨hhigh, hmid, hlow⟩ : (a >>> 16).toUInt8 = (b >>> 16).toUInt8 ∧
      (a >>> 8).toUInt8 = (b >>> 8).toUInt8 ∧ a.toUInt8 = b.toUInt8 := by
    simpa [u32ToBeBytes] using hbytes
  replace hhigh : a >>> 16 % 256 = b >>> 16 % 256 := congrArg UInt8.toNat hhigh
  replace hmid : a >>> 8 % 256 = b >>> 8 % 256 := congrArg UInt8.toNat hmid
  replace hlow : a % 256 = b % 256 := congrArg UInt8.toNat hlow
  rw [Nat.shiftRight_eq_div_pow, Nat.shiftRight_eq_div_pow] at hhigh hmid
  omega

theorem loadNormal_exact_sample : ∃ τ, Run (loadNormal samplePioneer).run τ
    (.ok (sampleMemory.slice 0x410000 0x1100)) ∧ τ.length ≤ 3 ∧
    τ.map Sigma.fst = (imageReads 0x1100).map (readOp samplePioneer) := by
  have hmagic : normalMagic <+: sampleMemory.slice 0x410000 256 := by decide +kernel
  have hlength : samplePioneer.readU32 (sampleMemory.slice 0x410000 256) 20 = some 0x1100 := by
    decide +kernel
  have hrun := run_loadNormal_served (P := samplePioneer) (fun a n => by simp [samplePioneer])
    hmagic hlength (by decide)
  have hserves : ∀ e ∈ servedReads samplePioneer sampleMemory (imageReads 0x1100),
      Serves samplePioneer sampleMemory e := by
    intro e he
    obtain ⟨c, hc, rfl⟩ := List.mem_map.mp he
    have hwindow : ∀ c ∈ imageReads 0x1100, c.start < 2 ^ 24 := by decide
    exact serves_served samplePioneer_readMemory_inj (hwindow c hc)
  have hall := (loadNormal_exact samplePioneer sampleMemory 0x1100 hmagic hlength
    (by decide)).2.2 _ _ hserves hrun
  exact ⟨_, hrun, hall.2.1, (hall.2.2.1 _ rfl).2⟩

end FreemkvUnlock.Renesas
