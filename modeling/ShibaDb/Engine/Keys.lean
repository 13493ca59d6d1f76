/-
The row keys of `engine.c`.  Every row of the tree the engine writes has one of
seven kinds of key; the builders below spell them, and `RowKey` says what a key
means.  Two different meanings are never spelled alike.
-/
import ShibaDb.Status

namespace ShibaDb

open LittleEndian List

def sequenceKeyPrefix : UInt8 := 0x10
def objectKeyPrefix : UInt8 := 0x40
def chunkKeyPrefix : UInt8 := 0x41
def indexDefinitionPrefix : UInt8 := 0x50
def indexEntryPrefix : UInt8 := 0x51
def uniqueGuardPrefix : UInt8 := 0x52
def indexReversePrefix : UInt8 := 0x53

def engineMaxNameSize : Nat := 1024

/-- `sdb_engine_bytes_valid`. -/
def engineBytesValid (bytes : Bytes) : Bool :=
  bytes.length ≠ 0 && bytes.length ≤ engineMaxNameSize && bytes.length ≤ uint16Max

/-- A byte string the engine takes as a namespace, a key, a collection, a document
id, an index name or the value of a term. -/
structure Name where
  bytes : Bytes
  valid : engineBytesValid bytes = true
  deriving DecidableEq

inductive ObjectKind where
  | kv
  | blob
  | document
  deriving DecidableEq, Repr

/-- The number `sdb_object_kind` gives a kind. -/
def ObjectKind.code : ObjectKind → UInt8
  | .kv => 1
  | .blob => 2
  | .document => 3

lemma ObjectKind.code_injective {left right : ObjectKind} (h : left.code = right.code) :
    left = right := by
  cases left <;> cases right <;> first | rfl | cases h

/-- The object a kind, a namespace and a key name. -/
structure ObjectId where
  kind : ObjectKind
  space : Name
  key : Name
  deriving DecidableEq

/-- `sdb_index_term` with its parts checked. -/
structure Term where
  index : Name
  value : Name
  deriving DecidableEq

/-- The layout of `sdb_engine_pair_key`; the length of the key is not stored. -/
def pairKeyBytes (lead kind : UInt8) (space key suffix : Bytes) : Bytes :=
  lead :: kind :: (write 2 space.length ++ (space ++ (key ++ suffix)))

/-- The layout of `sdb_index_base_key`. -/
def indexKeyBytes (lead : UInt8) (collection index value suffix : Bytes) : Bytes :=
  lead :: (write 2 collection.length ++ (write 2 index.length ++ (write 2 value.length ++
    (collection ++ (index ++ (value ++ suffix))))))

/-- Behind the term of an index entry: the document id with its length, and the
generation that wrote the entry. -/
def entrySuffix (document : Bytes) (generation : UInt64) : Bytes :=
  write 2 document.length ++ (document ++ write 8 generation.toNat)

def chunkSuffix (generation : UInt64) (index : UInt32) : Bytes :=
  write 8 generation.toNat ++ write 4 index.toNat

/-- What a key of the tree stands for. -/
inductive RowKey where
  | counter
  | object (id : ObjectId)
  | chunk (id : ObjectId) (generation : UInt64) (index : UInt32)
  | definition (collection index : Name)
  | entry (collection : Name) (term : Term) (document : Name) (generation : UInt64)
  | guard (collection : Name) (term : Term)
  | reverse (collection document : Name) (ordinal : UInt16)
  deriving DecidableEq

namespace RowKey

def spell : RowKey → Bytes
  | counter => [sequenceKeyPrefix]
  | object id => pairKeyBytes objectKeyPrefix id.kind.code id.space.bytes id.key.bytes []
  | chunk id generation index =>
    pairKeyBytes chunkKeyPrefix id.kind.code id.space.bytes id.key.bytes
      (chunkSuffix generation index)
  | definition collection index =>
    indexKeyBytes indexDefinitionPrefix collection.bytes index.bytes [] []
  | entry collection term document generation =>
    indexKeyBytes indexEntryPrefix collection.bytes term.index.bytes term.value.bytes
      (entrySuffix document.bytes generation)
  | guard collection term =>
    indexKeyBytes uniqueGuardPrefix collection.bytes term.index.bytes term.value.bytes []
  | reverse collection document ordinal =>
    pairKeyBytes indexReversePrefix ObjectKind.document.code collection.bytes document.bytes
      (write 2 ordinal.toNat)

def lead : RowKey → UInt8
  | counter => sequenceKeyPrefix
  | object _ => objectKeyPrefix
  | chunk _ _ _ => chunkKeyPrefix
  | definition _ _ => indexDefinitionPrefix
  | entry _ _ _ _ => indexEntryPrefix
  | guard _ _ => uniqueGuardPrefix
  | reverse _ _ _ => indexReversePrefix

lemma head?_spell (key : RowKey) : key.spell.head? = some key.lead := by
  cases key <;> rfl

end RowKey

section Spelling

lemma Name.ext_bytes {left right : Name} (h : left.bytes = right.bytes) : left = right := by
  cases left
  cases right
  cases h
  rfl

lemma Name.length_bounds (name : Name) :
    name.bytes.length ≠ 0 ∧ name.bytes.length ≤ engineMaxNameSize ∧
      name.bytes.length ≤ uint16Max := by
  have hvalid := name.valid
  simp only [engineBytesValid, Bool.and_eq_true, decide_eq_true_eq] at hvalid
  exact ⟨hvalid.1.1, hvalid.1.2, hvalid.2⟩

lemma Name.length_lt (name : Name) : name.bytes.length < 256 ^ 2 := by
  have hle := name.length_bounds.2.2
  rw [uint16Max] at hle
  omega

lemma write_injective {width left right : Nat} (hleft : left < 256 ^ width)
    (hright : right < 256 ^ width) (h : write width left = write width right) : left = right := by
  rw [← read_write_of_lt hleft, ← read_write_of_lt hright, h]

/-- Two parts of equal length end a spelling at the same place. -/
lemma append_split {left right rest rest' : Bytes} (hlength : left.length = right.length)
    (h : left ++ rest = right ++ rest') : left = right ∧ rest = rest' :=
  append_inj h hlength

lemma pairKeyBytes_injective {lead kind kind' : UInt8} {space space' key key' : Name}
    {suffix suffix' : Bytes} (hsuffix : suffix.length = suffix'.length)
    (h : pairKeyBytes lead kind space.bytes key.bytes suffix =
      pairKeyBytes lead kind' space'.bytes key'.bytes suffix') :
    kind = kind' ∧ space = space' ∧ key = key' ∧ suffix = suffix' := by
  simp only [pairKeyBytes, List.cons.injEq, true_and] at h
  obtain ⟨hkind, h⟩ := h
  obtain ⟨hlength, h⟩ := append_split (by simp) h
  have hlength := write_injective space.length_lt space'.length_lt hlength
  obtain ⟨hspace, h⟩ := append_split hlength h
  have hkeyLength : key.bytes.length = key'.bytes.length := by
    have htotal := congrArg List.length h
    simp only [length_append, hsuffix] at htotal
    omega
  obtain ⟨hkey, hsuffix⟩ := append_split hkeyLength h
  exact ⟨hkind, Name.ext_bytes hspace, Name.ext_bytes hkey, hsuffix⟩

lemma indexKeyBytes_injective {lead : UInt8} {collection collection' index index' : Name}
    {value value' suffix suffix' : Bytes} (hvalue : value.length < 256 ^ 2)
    (hvalue' : value'.length < 256 ^ 2)
    (h : indexKeyBytes lead collection.bytes index.bytes value suffix =
      indexKeyBytes lead collection'.bytes index'.bytes value' suffix') :
    collection = collection' ∧ index = index' ∧ value = value' ∧ suffix = suffix' := by
  simp only [indexKeyBytes, List.cons.injEq, true_and] at h
  obtain ⟨hcollectionLength, h⟩ := append_split (by simp) h
  obtain ⟨hindexLength, h⟩ := append_split (by simp) h
  obtain ⟨hvalueLength, h⟩ := append_split (by simp) h
  obtain ⟨hcollection, h⟩ :=
    append_split (write_injective collection.length_lt collection'.length_lt hcollectionLength) h
  obtain ⟨hindex, h⟩ :=
    append_split (write_injective index.length_lt index'.length_lt hindexLength) h
  obtain ⟨hvalueBytes, hsuffix⟩ :=
    append_split (write_injective hvalue hvalue' hvalueLength) h
  exact ⟨Name.ext_bytes hcollection, Name.ext_bytes hindex, hvalueBytes, hsuffix⟩

lemma uint64_write_injective {left right : UInt64}
    (h : write 8 left.toNat = write 8 right.toNat) : left = right :=
  UInt64.toNat_inj.mp (write_injective left.toNat_lt right.toNat_lt h)

lemma chunkSuffix_injective {generation generation' : UInt64} {index index' : UInt32}
    (h : chunkSuffix generation index = chunkSuffix generation' index') :
    generation = generation' ∧ index = index' := by
  obtain ⟨hgeneration, hindex⟩ := append_split (by simp) h
  exact ⟨uint64_write_injective hgeneration,
    UInt32.toNat_inj.mp (write_injective index.toNat_lt index'.toNat_lt hindex)⟩

lemma entrySuffix_injective {document document' : Name} {generation generation' : UInt64}
    (h : entrySuffix document.bytes generation = entrySuffix document'.bytes generation') :
    document = document' ∧ generation = generation' := by
  obtain ⟨hlength, h⟩ := append_split (by simp) h
  obtain ⟨hdocument, hgeneration⟩ :=
    append_split (write_injective document.length_lt document'.length_lt hlength) h
  exact ⟨Name.ext_bytes hdocument, uint64_write_injective hgeneration⟩

lemma ObjectId.ext_parts {left right : ObjectId} (hkind : left.kind.code = right.kind.code)
    (hspace : left.space = right.space) (hkey : left.key = right.key) : left = right := by
  cases left
  cases right
  cases ObjectKind.code_injective hkind
  cases hspace
  cases hkey
  rfl

lemma Term.ext_parts {left right : Term} (hindex : left.index = right.index)
    (hvalue : left.value.bytes = right.value.bytes) : left = right := by
  cases left
  cases right
  cases hindex
  cases Name.ext_bytes hvalue
  rfl

/-- No two rows share a key. -/
lemma RowKey.spell_injective {left right : RowKey} (h : left.spell = right.spell) :
    left = right := by
  have hlead : left.lead = right.lead := by
    have hhead := congrArg List.head? h
    rwa [head?_spell, head?_spell, Option.some.injEq] at hhead
  cases left with
  | counter =>
    cases right with
    | counter => rfl
    | _ => cases hlead
  | object id =>
    cases right with
    | object id' =>
      obtain ⟨hkind, hspace, hkey, _⟩ := pairKeyBytes_injective rfl h
      rw [ObjectId.ext_parts hkind hspace hkey]
    | _ => cases hlead
  | chunk id generation index =>
    cases right with
    | chunk id' generation' index' =>
      obtain ⟨hkind, hspace, hkey, hsuffix⟩ :=
        pairKeyBytes_injective (by simp [chunkSuffix]) h
      obtain ⟨rfl, rfl⟩ := chunkSuffix_injective hsuffix
      rw [ObjectId.ext_parts hkind hspace hkey]
    | _ => cases hlead
  | definition collection index =>
    cases right with
    | definition collection' index' =>
      obtain ⟨rfl, rfl, _, _⟩ := indexKeyBytes_injective (by decide) (by decide) h
      rfl
    | _ => cases hlead
  | entry collection term document generation =>
    cases right with
    | entry collection' term' document' generation' =>
      obtain ⟨rfl, hindex, hvalue, hsuffix⟩ :=
        indexKeyBytes_injective term.value.length_lt term'.value.length_lt h
      obtain ⟨rfl, rfl⟩ := entrySuffix_injective hsuffix
      rw [Term.ext_parts hindex hvalue]
    | _ => cases hlead
  | guard collection term =>
    cases right with
    | guard collection' term' =>
      obtain ⟨rfl, hindex, hvalue, _⟩ :=
        indexKeyBytes_injective term.value.length_lt term'.value.length_lt h
      rw [Term.ext_parts hindex hvalue]
    | _ => cases hlead
  | reverse collection document ordinal =>
    cases right with
    | reverse collection' document' ordinal' =>
      obtain ⟨_, rfl, rfl, hsuffix⟩ := pairKeyBytes_injective (by simp) h
      have hordinal := write_injective ordinal.toNat_lt ordinal'.toNat_lt hsuffix
      rw [UInt16.toNat_inj.mp hordinal]
    | _ => cases hlead

@[simp] lemma pairKeyBytes_length (lead kind : UInt8) (space key suffix : Bytes) :
    (pairKeyBytes lead kind space key suffix).length =
      4 + (space.length + (key.length + suffix.length)) := by
  simp only [pairKeyBytes, length_cons, length_append, write_length]
  omega

@[simp] lemma indexKeyBytes_length (lead : UInt8) (collection index value suffix : Bytes) :
    (indexKeyBytes lead collection index value suffix).length =
      7 + (collection.length + (index.length + (value.length + suffix.length))) := by
  simp only [indexKeyBytes, length_cons, length_append, write_length]
  omega

lemma Name.length_le (name : Name) : name.bytes.length ≤ 1024 := name.length_bounds.2.1

/-- Keys are never empty and never too long for the tree. -/
lemma RowKey.spell_length (key : RowKey) :
    key.spell.length ≠ 0 ∧ key.spell.length ≤ uint16Max := by
  constructor
  · cases key <;> simp [spell]
  · have hmax : 8192 ≤ uint16Max := by decide
    refine le_trans ?_ hmax
    cases key with
    | counter => decide
    | object id =>
      simp only [spell, pairKeyBytes_length, length_nil]
      linarith [id.space.length_le, id.key.length_le]
    | chunk id generation index =>
      simp only [spell, pairKeyBytes_length, chunkSuffix, length_append, write_length]
      linarith [id.space.length_le, id.key.length_le]
    | definition collection index =>
      simp only [spell, indexKeyBytes_length, length_nil]
      linarith [collection.length_le, index.length_le]
    | entry collection term document generation =>
      simp only [spell, indexKeyBytes_length, entrySuffix, length_append, write_length]
      linarith [collection.length_le, term.index.length_le, term.value.length_le,
        document.length_le]
    | guard collection term =>
      simp only [spell, indexKeyBytes_length, length_nil]
      linarith [collection.length_le, term.index.length_le, term.value.length_le]
    | reverse collection document ordinal =>
      simp only [spell, pairKeyBytes_length, write_length]
      linarith [collection.length_le, document.length_le]

end Spelling

end ShibaDb
