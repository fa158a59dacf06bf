import Foreman.Number.Width
import Foreman.Task.Arguments

set_option autoImplicit false

namespace Foreman.Shape

def whole (low high : Int) (name : String) (value : Json) : Decoded Json :=
  (Json.toWhole low high name value).map Json.int

def signed (half : Nat) (name : String) : Json → Decoded Json := whole (-half) (half - 1) name

def long : Json → Decoded Json := signed Number.bound63 "i64"

def named (name : String) : Json → Decoded Json :=
  match name with
  | "i64" => long
  | "u64" => whole 0 (Number.bound64 - 1) "u64"
  | "i32" => signed Number.bound31 "i32"
  | "u32" => whole 0 (Number.bound32 - 1) "u32"
  | "u8" => whole 0 255 "u8"
  | "f64" => fun value => (Json.toFloat value).map Json.float
  | "bool" => fun value => (Json.toBool value).map Json.bool
  | "string" => fun value => (Json.toText value).map Json.text
  | "opt_i64" => fun value => (Json.toNullable long value).map fun found => found.getD .null
  | "vec_i64" => fun value => (Json.toList long value).map Json.array
  | _ => .ok

end Foreman.Shape
