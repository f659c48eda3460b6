import ChatGateway.Shared.Text

set_option autoImplicit false

/-!
# Thinking signatures

The gateway signs the thinking it derives from a Chat answer, so that it knows it again when the
client sends it back.
-/

namespace ChatGateway

structure SigningCrypto where
  hmacSha256 : List UInt8 → List UInt8 → List UInt8
  encode : List UInt8 → Text
  decode : Text → Option (List UInt8)

structure SigningCrypto.Faithful (crypto : SigningCrypto) : Prop where
  decode_encode : ∀ bytes, crypto.decode (crypto.encode bytes) = some bytes
  dotless : ∀ bytes, '.' ∉ crypto.encode bytes

structure ThinkingSignatureInput where
  thinking : String
  model : String
  upstreamId : String
  protocol : String
  profileFingerprint : String
  callIds : List String
deriving DecidableEq, Repr

def beBytes (value : Nat) : List UInt8 :=
  (List.range 8).reverse.map fun place => UInt8.ofNat (value / 256 ^ place)

def lenPrefixed (value : String) : List UInt8 :=
  let bytes := Text.utf8 value.toList
  beBytes bytes.length ++ bytes

section Signing

variable (crypto : SigningCrypto) (secret : List UInt8)

def routeBinding (upstreamId protocol : String) : List UInt8 :=
  crypto.hmacSha256 secret
    (Text.utf8 "chat2responses/claude-thinking-route/v1".toList ++ [0] ++ lenPrefixed upstreamId ++
      lenPrefixed protocol)

def thinkingMac (input : ThinkingSignatureInput) : List UInt8 :=
  crypto.hmacSha256 secret
    (Text.utf8 "chat2responses/claude-thinking/v1".toList ++ [0] ++
      [input.thinking, input.model, input.upstreamId, input.protocol,
        input.profileFingerprint].flatMap lenPrefixed ++
      beBytes input.callIds.length ++ input.callIds.flatMap lenPrefixed)

def signThinking (input : ThinkingSignatureInput) : String :=
  String.ofList ("gw1.".toList ++
    crypto.encode (routeBinding crypto secret input.upstreamId input.protocol) ++ ['.'] ++
    crypto.encode (thinkingMac crypto secret input))

end Signing

end ChatGateway
