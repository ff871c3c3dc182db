import RyzenBuild.Caustic.ReadBack
import RyzenBuild.Delta.HashText

/-!
The envelope `infinity.c` writes around a payload. It anchors the payload by the
same hash as the delta links do, and prints all of its 64 bits.
-/
namespace RyzenBuild.Proxy

open Kernel Digits Significand Caustic

/-- The part of `Config` that the envelope shows. -/
structure ChainConfig where
  blockchainMode : Bool
  chainNamespace : List UInt8
  chainId : List UInt8
  gethRpcUrl : List UInt8
  contractAddress : List UInt8

def fnv1a64 (data : Nat → UInt8) (len : Nat) : UInt64 :=
  (List.range len).foldl (fun h i => Delta.fnvStep h (data i)) 1469598103934665603

/-- `payloadJson` is the array behind the pointer. -/
def appendBlockchainEnvelope (sb : StrBuf) (cfg : ChainConfig) (payloadJson : List UInt8) :
    StrBuf :=
  let anchorHash := fnv1a64 (Delta.asU8Buf payloadJson) (cString payloadJson).length
  let sb := sbAppendf sb (text "\"blockchain\":\x7b")
  let sb := sbAppendf sb (text "\"enabled\":" ++
    (if cfg.blockchainMode then text "true" else text "false") ++ text ",")
  let sb := sbAppendf sb (text "\"namespace\":")
  let sb := jsonEscapeAppend sb cfg.chainNamespace
  let sb := sbAppendf sb (text ",")
  let sb := sbAppendf sb (text "\"chain_id\":")
  let sb := jsonEscapeAppend sb cfg.chainId
  let sb := sbAppendf sb (text ",")
  let sb := sbAppendf sb (text "\"anchor_mode\":\"geth-compatible\",")
  let sb := sbAppendf sb (text "\"anchor_hash_fnv64\":\"0x" ++ hex 16 anchorHash.toNat ++
    text "\",")
  let sb := sbAppendf sb (text "\"signing_mode\":\"ethereum_personal_sign_compatible\",")
  let sb := sbAppendf sb (text "\"rpc_url\":")
  let sb := jsonEscapeAppend sb cfg.gethRpcUrl
  let sb := sbAppendf sb (text ",")
  let sb := sbAppendf sb (text "\"contract_address\":")
  let sb := jsonEscapeAppend sb cfg.contractAddress
  sbAppendf sb (text "\x7d")

section Anchor

/-- The envelope up to the hash. -/
def envelopeHead (cfg : ChainConfig) : List UInt8 :=
  text "\"blockchain\":\x7b" ++
    (text "\"enabled\":" ++ (if cfg.blockchainMode then text "true" else text "false") ++
      text ",") ++
    text "\"namespace\":" ++ quoted cfg.chainNamespace ++ text "," ++
    text "\"chain_id\":" ++ quoted cfg.chainId ++ text "," ++
    text "\"anchor_mode\":\"geth-compatible\"," ++ text "\"anchor_hash_fnv64\":\""

/-- The envelope from the quote behind the hash on. -/
def envelopeTail (cfg : ChainConfig) : List UInt8 :=
  text "\"," ++ text "\"signing_mode\":\"ethereum_personal_sign_compatible\"," ++
    text "\"rpc_url\":" ++ quoted cfg.gethRpcUrl ++ text "," ++
    text "\"contract_address\":" ++ quoted cfg.contractAddress ++ text "\x7d"

/-- The format of the hash, cut between its quote and its digits. -/
theorem anchor_format :
    text "\"anchor_hash_fnv64\":\"0x" = text "\"anchor_hash_fnv64\":\"" ++ text "0x" := rfl

theorem data_envelope (sb : StrBuf) (cfg : ChainConfig) (payload : List UInt8)
    (clean : 0 ∉ payload) :
    (appendBlockchainEnvelope sb cfg payload).data =
      sb.data ++ envelopeHead cfg ++
        (text "0x" ++
          hex 16 (Delta.dlFnv1a64 (Delta.asU8Buf payload) payload.length).toNat) ++
        envelopeTail cfg := by
  have whole := cString_clean payload clean
  have same : fnv1a64 (Delta.asU8Buf payload) (cString payload).length =
      Delta.dlFnv1a64 (Delta.asU8Buf payload) payload.length := by
    rw [whole]
    rfl
  simp only [appendBlockchainEnvelope, data_sbAppendf, data_jsonEscapeAppend, same, envelopeHead,
    envelopeTail, anchor_format, List.append_assoc]

end Anchor

/-- Put in the place of the anchor, the Lua text of a hash gives the envelope
when it is the exact text. -/
theorem envelope_anchored_iff (sb : StrBuf) (cfg : ChainConfig) (payload lua : List UInt8)
    (clean : 0 ∉ payload) :
    (appendBlockchainEnvelope sb cfg payload).data =
        sb.data ++ envelopeHead cfg ++ lua ++ envelopeTail cfg ↔
      text "0x" ++ hex 16 (Delta.dlFnv1a64 (Delta.asU8Buf payload) payload.length).toNat = lua := by
  rw [data_envelope sb cfg payload clean, List.append_cancel_right_eq,
    List.append_cancel_left_eq]

/-- A hash text is exact for the strings whose hash has no bit behind the leading
53, and then it is the anchor of the envelope; two hashes share a text when they
have the same nearest number. -/
theorem hash_text_exact_iff (s : List UInt8) (sb : StrBuf) (cfg : ChainConfig) (u v : UInt64) :
    (Delta.mFnv1a64 s =
        some (text "0x" ++ hex 16 (Delta.dlFnv1a64 (Delta.asU8Buf s) s.length).toNat) ↔
      Fits 53 (Delta.dlFnv1a64 (Delta.asU8Buf s) s.length).toNat) ∧
    (0 ∉ s →
      ((∃ lua, Delta.mFnv1a64 s = some lua ∧
          (appendBlockchainEnvelope sb cfg s).data =
            sb.data ++ envelopeHead cfg ++ lua ++ envelopeTail cfg) ↔
        Fits 53 (Delta.dlFnv1a64 (Delta.asU8Buf s) s.length).toNat)) ∧
    ((Delta.hex64U64 u = Delta.hex64U64 v → u = v) ↔
      (nearest 53 u.toNat = nearest 53 v.toNat → u = v)) ∧
    (Fits 53 u.toNat → Fits 53 v.toNat → Delta.hex64U64 u = Delta.hex64U64 v → u = v) := by
  refine ⟨Delta.mFnv1a64_exact_iff s, ?_, ?_, Delta.hex64U64_injective_on u v⟩
  · intro clean
    rw [← Delta.mFnv1a64_exact_iff s]
    constructor
    · rintro ⟨lua, printed, anchored⟩
      rw [printed, (envelope_anchored_iff sb cfg s lua clean).mp anchored]
    · intro exact
      exact ⟨_, exact, (envelope_anchored_iff sb cfg s _ clean).mpr rfl⟩
  · rw [Delta.hex64U64_same_iff]

/-- A string whose hash fits, and two values of which one does not. -/
theorem hash_text_exact_cpp :
    Delta.mFnv1a64 (text "cpp") =
        some (text "0x" ++ hex 16 (Delta.dlFnv1a64 (Delta.asU8Buf (text "cpp")) 3).toNat) ∧
      (∃ lua, Delta.mFnv1a64 (text "cpp") = some lua ∧
        (appendBlockchainEnvelope (sbInit jsonBufCap (by decide)) ⟨true, [], [], [], []⟩
            (text "cpp")).data =
          [] ++ envelopeHead ⟨true, [], [], [], []⟩ ++ lua ++
            envelopeTail ⟨true, [], [], [], []⟩) ∧
      ¬(Delta.hex64U64 9007199254740992 = Delta.hex64U64 9007199254740993 →
        (9007199254740992 : UInt64) = 9007199254740993) ∧
      ¬Fits 53 (9007199254740993 : UInt64).toNat :=
  have fits : Fits 53 (Delta.dlFnv1a64 (Delta.asU8Buf (text "cpp")) 3).toNat := by
    decide +kernel
  have exact := hash_text_exact_iff (text "cpp") (sbInit jsonBufCap (by decide))
    ⟨true, [], [], [], []⟩ 9007199254740992 9007199254740993
  have tied : nearest 53 (9007199254740992 : UInt64).toNat =
      nearest 53 (9007199254740993 : UInt64).toNat := by decide +kernel
  have apart : (9007199254740992 : UInt64) ≠ 9007199254740993 := by decide
  have shared := fun same => apart (exact.2.2.1.mp same tied)
  ⟨exact.1.mpr fits, (exact.2.1 (by decide)).mpr fits, shared, fun odd =>
    apart (exact.2.2.2 (by decide +kernel) odd (congrArg (fun n => some (hex 16 n)) tied))⟩

/-- The hash of the empty string is rounded, and 2^53 and its successor print
alike. -/
theorem empty_hash_text_rounded :
    Delta.mFnv1a64 [] = some (text "0x14650fb0739d0400") ∧
      text "0x" ++ hex 16 (Delta.dlFnv1a64 (Delta.asU8Buf []) 0).toNat =
        text "0x14650fb0739d0383" ∧
      Delta.mFnv1a64 [] ≠
        some (text "0x" ++ hex 16 (Delta.dlFnv1a64 (Delta.asU8Buf []) 0).toNat) ∧
      Delta.hex64U64 9007199254740992 = Delta.hex64U64 9007199254740993 := by
  refine ⟨by decide +kernel, by decide +kernel, ?_, by decide +kernel⟩
  intro exact
  exact absurd ((Delta.mFnv1a64_exact_iff []).mp exact) (by decide +kernel)

end RyzenBuild.Proxy
