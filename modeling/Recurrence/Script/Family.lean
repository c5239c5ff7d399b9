import Recurrence.Text
/-!
# Families of the library

A family is a kind of object that the library of a script makes: its objects share a prototype, the object whose fields
they all have, and most families have a maker, the function that makes new ones.  Prototypes, makers and some other
objects of the library have fixed addresses, the lowest ones.
-/
namespace Recurrence.Script

inductive Family where
  | object
  | function
  | list
  | text
  | number
  | truth
  | bigNumber
  | symbol
  | date
  | pattern
  | fault
  | typeFault
  | rangeFault
  | syntaxFault
  | referenceFault
  | evalFault
  | addressFault
  | aggregateFault
  | map
  | set
  | weakMap
  | weakSet
  | weakReference
  | registry
  | promise
  | proxy
  | iterator
  | listWalk
  | textWalk
  | mapWalk
  | setWalk
  | patternWalk
  /-- Walks that change what another walk gives. -/
  | helper
  | wrapper
  | generator
  | generatorFunction
  | asyncFunction
  | asyncGenerator
  | asyncGeneratorFunction
  | asyncIterator
  | buffer
  /-- What all lists of numbers of one size have in common. -/
  | view
  | int8
  | uint8
  | clamped
  | int16
  | uint16
  | int32
  | uint32
  | bigInt64
  | bigUint64
  | float32
  | float64
  | dataView
  | dateFormat
  | numberFormat
  | collator
  | pluralRules
  | listFormat
  | relativeFormat
  | encoder
  | decoder
  | timer
  | immediate
deriving DecidableEq

namespace Family

/-- The name under which a script knows a family. -/
def name : Family → String
  | object => "Object"
  | function => "Function"
  | list => "Array"
  | text => "String"
  | number => "Number"
  | truth => "Boolean"
  | bigNumber => "BigInt"
  | symbol => "Symbol"
  | date => "Date"
  | pattern => "RegExp"
  | fault => "Error"
  | typeFault => "TypeError"
  | rangeFault => "RangeError"
  | syntaxFault => "SyntaxError"
  | referenceFault => "ReferenceError"
  | evalFault => "EvalError"
  | addressFault => "URIError"
  | aggregateFault => "AggregateError"
  | map => "Map"
  | set => "Set"
  | weakMap => "WeakMap"
  | weakSet => "WeakSet"
  | weakReference => "WeakRef"
  | registry => "FinalizationRegistry"
  | promise => "Promise"
  | proxy => "Proxy"
  | iterator => "Iterator"
  | listWalk => "Array Iterator"
  | textWalk => "String Iterator"
  | mapWalk => "Map Iterator"
  | setWalk => "Set Iterator"
  | patternWalk => "RegExp String Iterator"
  | helper => "Iterator Helper"
  | wrapper => "Wrap Iterator"
  | generator => "Generator"
  | generatorFunction => "GeneratorFunction"
  | asyncFunction => "AsyncFunction"
  | asyncGenerator => "AsyncGenerator"
  | asyncGeneratorFunction => "AsyncGeneratorFunction"
  | asyncIterator => "AsyncIterator"
  | buffer => "ArrayBuffer"
  | view => "TypedArray"
  | int8 => "Int8Array"
  | uint8 => "Uint8Array"
  | clamped => "Uint8ClampedArray"
  | int16 => "Int16Array"
  | uint16 => "Uint16Array"
  | int32 => "Int32Array"
  | uint32 => "Uint32Array"
  | bigInt64 => "BigInt64Array"
  | bigUint64 => "BigUint64Array"
  | float32 => "Float32Array"
  | float64 => "Float64Array"
  | dataView => "DataView"
  | dateFormat => "DateTimeFormat"
  | numberFormat => "NumberFormat"
  | collator => "Collator"
  | pluralRules => "PluralRules"
  | listFormat => "ListFormat"
  | relativeFormat => "RelativeTimeFormat"
  | encoder => "TextEncoder"
  | decoder => "TextDecoder"
  | timer => "Timeout"
  | immediate => "Immediate"

/-- A number above those of all families. -/
def count : Nat := 72

/-- The address of what objects of a family build on. -/
def prototype (f : Family) : Nat := 2 * f.ctorIdx

/-- The address of the function that makes objects of a family. -/
def maker (f : Family) : Nat := 2 * f.ctorIdx + 1

/-- The families of faults. -/
def faults : List Family :=
  [fault, typeFault, rangeFault, syntaxFault, referenceFault, evalFault, addressFault, aggregateFault]

end Family

/-- Other objects of the library with an address of their own. -/
inductive Landmark where
  | globalObject
  | math
  | jsonNotation
  | reflection
  | atomics
  | locales
  | console
  | process
  | output
  | errors
  | input
  | surroundings
  | versions
  /-- The function that executes a text where it is called. -/
  | eval
  /-- The function that walks through a list. -/
  | listValues
  /-- The functions that settle promises. -/
  | keepPromise
  | breakPromise
  /-- The function that takes the functions which settle a promise. -/
  | takeSettlers
  | revokeProxy
  | ownModule
  | exports
  /-- The function that gives the text of a fault with a code. -/
  | codedText
  | inspection
  | unseen
  | formatDate
  | formatNumber
  | compareTexts
  | performance
deriving DecidableEq

namespace Landmark

def address (l : Landmark) : Nat := 2 * Family.count + l.ctorIdx

/-- A number above those of all landmarks. -/
def count : Nat := 32

end Landmark

/-- The first address without a meaning of its own. -/
def firstFreeAddress : Nat := 2 * Family.count + Landmark.count

end Recurrence.Script
