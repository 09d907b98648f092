import TypedClient.Text.Basic

/-!
UTF-8: the bytes of a text, and the text of bytes that are well formed. Overlong forms, surrogates
and code points beyond U+10FFFF are refused.
-/

namespace TypedClient.Utf8

def tail? (byte : UInt8) : Option Nat :=
  if 0x80 ≤ byte.toNat ∧ byte.toNat ≤ 0xBF then some (byte.toNat - 0x80) else none

def decode? : List UInt8 → Option Text
  | [] => some []
  | a :: rest =>
    if a.toNat < 0x80 then (decode? rest).map (Char.ofNat a.toNat :: ·)
    else match rest with
      | [] => none
      | b :: rest =>
        match tail? b with
        | none => none
        | some b =>
          if 0xC2 ≤ a.toNat ∧ a.toNat ≤ 0xDF then
            (decode? rest).map (Char.ofNat ((a.toNat - 0xC0) * 64 + b) :: ·)
          else match rest with
            | [] => none
            | c :: rest =>
              match tail? c with
              | none => none
              | some c =>
                let code := (a.toNat - 0xE0) * 4096 + b * 64 + c
                if 0xE0 ≤ a.toNat ∧ a.toNat ≤ 0xEF then
                  if 0x800 ≤ code ∧ ¬(0xD800 ≤ code ∧ code ≤ 0xDFFF) then
                    (decode? rest).map (Char.ofNat code :: ·)
                  else none
                else match rest with
                  | [] => none
                  | d :: rest =>
                    match tail? d with
                    | none => none
                    | some d =>
                      let code := (a.toNat - 0xF0) * 262144 + b * 4096 + c * 64 + d
                      if 0xF0 ≤ a.toNat ∧ 0x10000 ≤ code ∧ code ≤ 0x10FFFF then
                        (decode? rest).map (Char.ofNat code :: ·)
                      else none

def encodeChar (c : Char) : List UInt8 :=
  let n := c.toNat
  let bytes : List Nat :=
    if n < 0x80 then [n]
    else if n < 0x800 then [0xC0 + n / 64, 0x80 + n % 64]
    else if n < 0x10000 then [0xE0 + n / 4096, 0x80 + n / 64 % 64, 0x80 + n % 64]
    else [0xF0 + n / 262144, 0x80 + n / 4096 % 64, 0x80 + n / 64 % 64, 0x80 + n % 64]
  bytes.map UInt8.ofNat

def encode (text : Text) : List UInt8 :=
  text.flatMap encodeChar

end TypedClient.Utf8
