import PartitionLowering.Size

/-!
Element types of the engine and the room that packed elements take.
-/

set_option autoImplicit false

namespace PartitionLowering

inductive ElementType
  | boolean
  | f16
  | f32
  | f64
  | i4
  | i8
  | i16
  | i32
  | i64
  | u8
  | u16
  | u32
  | u64
  deriving DecidableEq, Inhabited

namespace ElementType

def all : List ElementType :=
  [.boolean, .f16, .f32, .f64, .i4, .i8, .i16, .i32, .i64, .u8, .u16, .u32, .u64]

def name : ElementType → String
  | boolean => "boolean"
  | f16 => "f16"
  | f32 => "f32"
  | f64 => "f64"
  | i4 => "i4"
  | i8 => "i8"
  | i16 => "i16"
  | i32 => "i32"
  | i64 => "i64"
  | u8 => "u8"
  | u16 => "u16"
  | u32 => "u32"
  | u64 => "u64"

def ofName? (name : String) : Option ElementType :=
  all.find? fun type => type.name = name

def bitWidth : ElementType → Nat
  | i4 => 4
  | boolean | i8 | u8 => 8
  | f16 | i16 | u16 => 16
  | f32 | i32 | u32 => 32
  | f64 | i64 | u64 => 64

def byteLength? (type : ElementType) (count : Nat) : Option Nat :=
  Size.packed? count type.bitWidth

end ElementType

end PartitionLowering
