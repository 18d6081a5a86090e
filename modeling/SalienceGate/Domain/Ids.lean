import SalienceGate.Domain.Enums
import SalienceGate.Domain.Primitives

/-!
# Derived identities

The identities that are digests of the fields they identify: the cycle identity, and the delivery
identity, whose digest is cut to a version-4 UUID.
-/

namespace SalienceGate

variable [Hashing]

/-- `cycle_id`: the digest of the identity fields of a cycle. -/
def cycleId (runId : UUID4) (firstEventSequence lastEventSequence : ℕ)
    (policyVersion : ComponentIdentifier) (configurationDigest : Sha256Digest)
    (groundingVersion : ComponentIdentifier) (groundingConfigurationDigest : Sha256Digest)
    (requestedDeliveryTarget : Option DeliveryTarget) : Sha256Digest :=
  let targetIdentity := match requestedDeliveryTarget with
    | none => "none"
    | some target => "target:" ++ target.value
  Hashing.lengthPrefixedSha256 "saliencegate:cycle:v2"
    [.text runId.toString, .text (toString firstEventSequence), .text (toString lastEventSequence),
      .text policyVersion.text, .text configurationDigest.text, .text groundingVersion.text,
      .text groundingConfigurationDigest.text, .text targetIdentity]

/-- A 128-bit number with the version and variant fields of a version-4 UUID. -/
def stampVersion4 (n : ℕ) : UUID where
  int := BitVec.ofNat 128
    (n / 2^80 % 2^48 * 2^80 + 4 * 2^76 + n / 2^64 % 2^12 * 2^64 + 2 * 2^62 + n % 2^62)

omit [Hashing] in
/-- A stamped number is a version-4 UUID. -/
theorem stampVersion4_isVersion4 (n : ℕ) : (stampVersion4 n).isVersion4 = true := by
  simp only [UUID.isVersion4, stampVersion4, BitVec.toNat_ofNat, Bool.and_eq_true,
    decide_eq_true_eq]
  omega

/-- `delivery_id`: the first sixteen bytes of the digest of a delivery's identity, stamped. -/
def deliveryId (runId : UUID4) (cycleIdentifier : Sha256Digest) (interventionId : UUID4)
    (targetRequestId : EventMetadataIdentifier) (target : DeliveryTarget)
    (adapterId : ComponentIdentifier) (adapterCapabilitiesDigest renderedTextDigest : Sha256Digest) :
    UUID4 :=
  let digest := Hashing.lengthPrefixedSha256 "saliencegate:delivery:v1"
    [.text runId.toString, .text cycleIdentifier.text, .text interventionId.toString,
      .text targetRequestId.text, .text target.value, .text adapterId.text,
      .text adapterCapabilitiesDigest.text, .text renderedTextDigest.text]
  let raw := (Hex.value? (digest.text.toList.take 32)).getD 0
  ⟨stampVersion4 raw, stampVersion4_isVersion4 raw⟩

end SalienceGate
