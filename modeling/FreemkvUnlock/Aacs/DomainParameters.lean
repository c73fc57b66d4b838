import FreemkvUnlock.Aacs.Order
import FreemkvUnlock.Aacs.SignVerify
import FreemkvUnlock.Primality.Certificate

/-! # The two curves are valid

The fields and the group orders of both curves are prime, the generators lie on the curves, and
the stated orders kill them. Primality is by certificate and the order by a ladder.
-/

namespace FreemkvUnlock.Aacs

open WeierstrassCurve Primality

/-- Primes that lead to the field and the order of the 160-bit curve. -/
def aacs1Certificate : List Step :=
  [⟨223049, 3, [2, 2, 2, 7, 7, 569]⟩, ⟨54445541, 2, [2, 2, 5, 41, 67, 991]⟩,
    ⟨4900098691, 10, [2, 3, 3, 5, 54445541]⟩, ⟨29400592147, 2, [2, 3, 4900098691]⟩,
    ⟨1734151, 3, [2, 3, 5, 5, 11, 1051]⟩, ⟨1161529, 7, [2, 2, 2, 3, 48397]⟩,
    ⟨3942229427, 2, [2, 1697, 1161529]⟩, ⟨34256977, 5, [2, 2, 2, 2, 3, 13, 13, 41, 103]⟩,
    ⟨2603530253, 2, [2, 2, 19, 34256977]⟩, ⟨15621181519, 3, [2, 3, 2603530253]⟩,
    ⟨843543802027, 5, [2, 3, 3, 3, 15621181519]⟩,
    ⟨11533641299068191036196427759, 7, [2, 1734151, 3942229427, 843543802027]⟩,
    ⟨ecP, 3, [2, 3, 5, 397, 223049, 29400592147, 11533641299068191036196427759]⟩,
    ⟨303361, 23, [2, 2, 2, 2, 2, 2, 2, 2, 3, 5, 79]⟩, ⟨4290311, 7, [2, 5, 97, 4423]⟩,
    ⟨816964543, 5, [2, 3, 3, 3, 3, 3, 601, 2797]⟩, ⟨924641, 3, [2, 2, 2, 2, 2, 5, 5779]⟩,
    ⟨5547847, 3, [2, 3, 924641]⟩, ⟨33287083, 2, [2, 3, 5547847]⟩,
    ⟨133015183669, 2, [2, 2, 3, 3, 3, 37, 33287083]⟩,
    ⟨7893847002436539004969745260267801508851, 2, [2, 3, 3, 3, 3, 5, 5, 13781, 303361, 4290311,
      816964543, 133015183669]⟩,
    ⟨552569290170557730347882168218746105619571, 7, [2, 5, 7,
      7893847002436539004969745260267801508851]⟩,
    ⟨ecN, 5, [2, 13, 62701, 552569290170557730347882168218746105619571]⟩]

def p256Certificate : List Step :=
  [⟨65537, 3, [2, 2, 2, 2, 2, 2, 2, 2, 2, 2, 2, 2, 2, 2, 2, 2]⟩, ⟨490463, 14, [2, 7, 53, 661]⟩,
    ⟨6700417, 5, [2, 2, 2, 2, 2, 2, 2, 3, 17449]⟩, ⟨204061199, 11, [2, 11, 23, 107, 3769]⟩,
    ⟨34282281433, 17, [2, 2, 2, 3, 7, 204061199]⟩, ⟨66417393611, 6, [2, 5, 53, 173, 197, 3677]⟩,
    ⟨11290956913871, 13, [2, 5, 17, 66417393611]⟩, ⟨78283, 3, [2, 3, 3, 4349]⟩,
    ⟨704251, 2, [2, 3, 3, 5, 5, 5, 313]⟩, ⟨46076956964474543, 5, [2, 23, 18169, 78283, 704251]⟩,
    ⟨774023187263532362759620327192479577272145303, 3, [2, 3, 3, 2411, 34282281433,
      11290956913871, 46076956964474543]⟩,
    ⟨835945042244614951780389953367877943453916927241, 11, [2, 2, 2, 3, 3, 3, 5,
      774023187263532362759620327192479577272145303]⟩,
    ⟨p256P, 6, [2, 3, 5, 5, 17, 257, 641, 1531, 65537, 490463, 6700417,
      835945042244614951780389953367877943453916927241]⟩,
    ⟨9350987, 2, [2, 17, 229, 1201]⟩, ⟨187019741, 2, [2, 2, 5, 9350987]⟩,
    ⟨311245691, 2, [2, 5, 7, 17, 29, 29, 311]⟩, ⟨622491383, 5, [2, 311245691]⟩,
    ⟨126241, 7, [2, 2, 2, 2, 2, 3, 5, 263]⟩, ⟨104471, 11, [2, 5, 31, 337]⟩,
    ⟨3969899, 2, [2, 19, 104471]⟩, ⟨1002328039319, 19, [2, 126241, 3969899]⟩,
    ⟨155317, 5, [2, 2, 3, 7, 43, 43]⟩, ⟨191039911, 3, [2, 3, 5, 41, 155317]⟩,
    ⟨208150935158385979, 2, [2, 3, 11, 43, 127, 3023, 191039911]⟩,
    ⟨2624747550333869278416773953, 7, [2, 2, 2, 2, 2, 2, 3, 3, 1297, 16879, 208150935158385979]⟩,
    ⟨p256N, 7, [2, 2, 2, 2, 3, 71, 131, 373, 3407, 17449, 38189, 187019741, 622491383,
      1002328039319, 2624747550333869278416773953]⟩]

theorem aacs1Certificate_prime : ∀ s ∈ aacs1Certificate, s.n.Prime :=
  prime_of_checkAll [] nofun (by decide +kernel)

theorem p256Certificate_prime : ∀ s ∈ p256Certificate, s.n.Prime :=
  prime_of_checkAll [] nofun (by decide +kernel)

theorem ecP_prime : ecP.Prime :=
  aacs1Certificate_prime (aacs1Certificate.get ⟨12, by decide⟩) (List.get_mem _ _)

theorem ecN_prime : ecN.Prime :=
  aacs1Certificate_prime (aacs1Certificate.get ⟨22, by decide⟩) (List.get_mem _ _)

theorem p256P_prime : p256P.Prime :=
  p256Certificate_prime (p256Certificate.get ⟨12, by decide⟩) (List.get_mem _ _)

theorem p256N_prime : p256N.Prime :=
  p256Certificate_prime (p256Certificate.get ⟨25, by decide⟩) (List.get_mem _ _)

theorem EcDomain.valid_of_hasOrder {E : EcDomain} (hc : CurveParams E.a E.b E.p)
    (hn : E.n.Prime) (hw : 0 < E.width) (hp : E.p < 256 ^ E.width) (hlt : E.n < 256 ^ E.width)
    {x y : ℕ} (hg : E.g = EcPoint.new x y) (hon : E.onCurve x y = true)
    (ho : Jac.hasOrder E.a E.p x y E.n = true) : E.Valid := by
  have : Fact E.p.Prime := ⟨hc.prime⟩
  have hG : OnCurve E.a E.b E.p E.g := hg ▸ .inr ⟨rfl, hon⟩
  refine ⟨hc, hG, by rw [hg]; simp [EcPoint.new, EcPoint.atInfinity], hn, ?_, hw, hp, hlt⟩
  obtain ⟨X, hX⟩ := hG.represents hc
  rw [hg] at hX
  cases hX with
  | affine hx hy hns =>
    have hzero := Jac.nsmul_eq_zero_of_hasOrder hc hns ho
    have hmul := (Represents.affine hx hy hns).mul hc E.n
    rw [hzero] at hmul
    rw [mul, hg]
    exact hmul.injective .infinity

theorem aacs1_valid : aacs1.Valid :=
  EcDomain.valid_of_hasOrder ⟨ecP_prime, by decide, by decide⟩ ecN_prime (by decide) (by decide)
    (by decide) rfl (by decide +kernel) (by decide +kernel)

theorem p256_valid : p256.Valid :=
  EcDomain.valid_of_hasOrder ⟨p256P_prime, by decide, by decide⟩ p256N_prime (by decide)
    (by decide) (by decide) rfl (by decide +kernel) (by decide +kernel)

end FreemkvUnlock.Aacs
