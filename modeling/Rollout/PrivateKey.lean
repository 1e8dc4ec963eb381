import Rollout.Abi.Report

/-!
# Private keys

A private key is thirty-two bytes in hexadecimal digits, with or without `0x` in front, whose
number is not zero and below the order of the group of curve points.
-/

namespace Rollout.PrivateKey

/-- The order of the group of points of the curve secp256k1. -/
def groupOrder : Nat := 0xFFFFFFFFFFFFFFFFFFFFFFFFFFFFFFFEBAAEDCE6AF48A03BBFD25E8CD0364141

/-- Accept the text of a private key; the result is its number. -/
def ofText (key : String) : Except Failure Nat :=
  let marked :=
    match key.toList with
    | '0' :: 'x' :: _ => key
    | letters => String.ofList ('0' :: 'x' :: letters)
  let digits := marked.toList.drop 2
  if !digits.all Text.isHexDigit || digits.length % 2 ≠ 0 then
    .error (.argument (.invalid "invalid BytesLike value" "value" (.text marked)))
  else if digits.length ≠ 64 then
    .error (.argument (.invalid "invalid private key" "privateKey" (.text "[REDACTED]")))
  else
    let number := Text.hexNumber digits
    if number = 0 ∨ groupOrder ≤ number then
      .error (.plain "Expected valid bigint: 0 < bigint < curve.n")
    else .ok number

end Rollout.PrivateKey
