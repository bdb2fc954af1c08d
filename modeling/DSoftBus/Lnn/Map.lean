import DSoftBus.Adapter
import DSoftBus.Lib.KeyedList

/-!
The string map of lnn_map.c. A bucket is the list of its chain; `NULL` buckets are
`none`. Reading a bucket that does not exist has no result. Pointers take eight
bytes, `SoftBusCalloc` takes its size as a 32-bit number, and the size of a value is
the number of its bytes.
-/
namespace DSoftBus.Lnn

structure CString where
  bytes : Bytes
  noNul : 0 ∉ bytes
deriving DecidableEq

def CString.strlen (s : CString) : Nat := s.bytes.length

structure MapNode where
  hash : BitVec 32
  key : CString
  value : Bytes

def MapNode.id (node : MapNode) : BitVec 32 × CString := (node.hash, node.key)

structure Map where
  nodes : Option (List (List MapNode))
  nodeSize : BitVec 32
  bucketSize : BitVec 32

def hdfMinMapSize : BitVec 32 := 8
def hdfEnlargeFactor : Nat := 2
def hdfMapKeyMaxSize : Nat := 1000
def hdfMapValueMaxSize : Nat := 1000

def lnnMapInit : Map := ⟨none, 0, 0⟩

variable (map : Map) (hash : BitVec 32)

def mapHashIdx : Nat := (hash &&& (map.bucketSize - 1)).toNat

def mapAddNode (map : Map) (node : MapNode) : Option Map :=
  match map.nodes with
  | none => none
  | some buckets =>
    if mapHashIdx map node.hash < buckets.length then
      some { map with nodes := some (buckets.modify (mapHashIdx map node.hash) (node :: ·)) }
    else none

def mapResize (map : Map) (size : BitVec 32) : Option (Map × SoftBusErrNo) :=
  match softBusCalloc (size.toNat * 8 % 2 ^ 32) with
  | none => some (map, .memErr)
  | some _ =>
    let resized := { map with nodes := some (List.replicate size.toNat []), bucketSize := size }
    match map.nodes with
    | none => some (resized, .ok)
    | some tmp =>
      if tmp.length < map.bucketSize.toNat then none
      else
        ((tmp.take map.bucketSize.toNat).flatten.foldlM mapAddNode resized).map fun done =>
          (done, .ok)

/-- The node itself takes 32 bytes; the copies into it cannot fail. -/
def mapCreateNode (key : CString) (hash : BitVec 32) (value : Bytes) : Option MapNode :=
  match softBusCalloc (32 + (key.strlen + 1) + value.length) with
  | none => none
  | some _ => some ⟨hash, key, value⟩

/-- The search that set, get and erase make: the first node of the chain with the hash
and the key. A map without nodes is not searched. -/
def mapFind (key : CString) : Option (Option MapNode) :=
  match map.nodes with
  | none => some none
  | some buckets =>
    if map.nodeSize = 0 then some none
    else (buckets[mapHashIdx map hash]?).map (KeyedList.lookup MapNode.id (hash, key))

def Map.modifyChain (f : List MapNode → List MapNode) : Map :=
  { map with nodes := map.nodes.map (·.modify (mapHashIdx map hash) f) }

section
variable (charValue : UInt8 → BitVec 32)

/-- BKDR hash. Whether a `char` is signed depends on the platform, so `charValue`
stands for its conversion. -/
def mapHash (key : CString) : BitVec 32 :=
  let len := BitVec.ofNat 32 key.strlen
  ((key.bytes.take len.toNat).foldl (fun hash c => hash * 131 + charValue c) 0) &&& 0x7FFFFFFF

variable (map : Map) (key : CString)

def lnnMapSet (value : Bytes) : Option (Map × SoftBusErrNo) :=
  if value.length = 0 then some (map, .invalidParam)
  else if hdfMapKeyMaxSize < value.length ∨ hdfMapValueMaxSize < key.strlen then
    some (map, .invalidParam)
  else
    let hash := mapHash charValue key
    match mapFind map hash key with
    | none => none
    | some (some node) =>
      if node.value.length ≠ value.length then some (map, .invalidParam)
      else
        some (map.modifyChain hash
          (KeyedList.update MapNode.id (hash, key) fun node => { node with value := value }), .ok)
    | some none =>
      let size := if map.bucketSize < hdfMinMapSize then hdfMinMapSize
        else map.bucketSize <<< hdfEnlargeFactor
      -- a failed resize is ignored
      let enlarged := if map.bucketSize ≤ map.nodeSize then (mapResize map size).map Prod.fst
        else some map
      match enlarged with
      | none => none
      | some map =>
        match mapCreateNode key hash value with
        | none => some (map, .invalidParam)
        | some node =>
          (mapAddNode map node).map fun map =>
            ({ map with nodeSize := map.nodeSize + 1 }, .ok)

def lnnMapGet : Option (Option Bytes) :=
  (mapFind map (mapHash charValue key) key).map fun found => found.map MapNode.value

def lnnMapErase : Option (Map × SoftBusErrNo) :=
  if map.nodeSize = 0 ∨ map.nodes.isNone then some (map, .invalidParam)
  else
    let hash := mapHash charValue key
    match mapFind map hash key with
    | none => none
    | some none => some (map, .err)
    | some (some _) =>
      some ({ map.modifyChain hash (KeyedList.remove MapNode.id (hash, key)) with
        nodeSize := map.nodeSize - 1 }, .ok)

inductive MapCall where
  | set (key : CString) (value : Bytes)
  | get (key : CString)
  | erase (key : CString)

inductive MapEvent where
  | set (key : CString) (value : Bytes) (ret : SoftBusErrNo)
  | got (key : CString) (value : Option Bytes)
  | erased (key : CString) (ret : SoftBusErrNo)

def mapStep (map : Map) : MapCall → Option (Map × List MapEvent)
  | .set key value =>
    (lnnMapSet charValue map key value).map fun done => (done.1, [.set key value done.2])
  | .get key => (lnnMapGet charValue map key).map fun value => (map, [.got key value])
  | .erase key =>
    (lnnMapErase charValue map key).map fun done => (done.1, [.erased key done.2])

end
end DSoftBus.Lnn
