import Mt6757.Lib.Netlink
import Mt6757.Lib.Splice

/-!
# Messages of nested attributes

How a message is assembled in a buffer that may run out, and what walking over it gives
back.  An attribute is added behind what is there; the length of one that contains
others is known, and written, only once they are all there.
-/

set_option autoImplicit false

namespace NlMessage

/-- Type and payload.  The payload of an attribute that contains others is their bytes. -/
abbrev Attr := Nat × List UInt8

def attrBytes (type : Nat) (payload : List UInt8) : List UInt8 :=
  leBytes 2 (Netlink.hdrlen + payload.length) ++ (leBytes 2 type ++
    (payload ++ List.replicate (Netlink.align payload.length - payload.length) 0))

def attrsBytes (attrs : List Attr) : List UInt8 := attrs.flatMap fun attr => attrBytes attr.1 attr.2

theorem attrBytes_length (type : Nat) (payload : List UInt8) :
    (attrBytes type payload).length = Netlink.hdrlen + Netlink.align payload.length := by
  have more := Netlink.le_align payload.length
  simp only [attrBytes, List.length_append, leBytes_length, List.length_replicate, Netlink.hdrlen]
  omega

theorem align_header (n : Nat) :
    Netlink.align (Netlink.hdrlen + n) = Netlink.hdrlen + Netlink.align n := by
  simp only [Netlink.align, Netlink.hdrlen]
  omega

@[simp] theorem attrsBytes_nil : attrsBytes [] = [] := rfl

theorem attrsBytes_cons (attr : Attr) (rest : List Attr) :
    attrsBytes (attr :: rest) = attrBytes attr.1 attr.2 ++ attrsBytes rest := rfl

@[simp] theorem attrsBytes_append (attrs rest : List Attr) :
    attrsBytes (attrs ++ rest) = attrsBytes attrs ++ attrsBytes rest := List.flatMap_append

theorem attrsBytes_aligned (attrs : List Attr) : (attrsBytes attrs).length % 4 = 0 := by
  induction attrs with
  | nil => rfl
  | cons attr rest ih =>
      rw [attrsBytes_cons, List.length_append, attrBytes_length]
      simp only [Netlink.align, Netlink.hdrlen]
      omega

/-- What a nest contains takes no padding. -/
theorem nest_length (type : Nat) (attrs : List Attr) :
    (attrBytes type (attrsBytes attrs)).length = Netlink.hdrlen + (attrsBytes attrs).length := by
  have multiple := attrsBytes_aligned attrs
  rw [attrBytes_length, Netlink.align]
  omega

theorem attrsBytes_length_ge (attrs : List Attr) :
    4 * attrs.length ≤ (attrsBytes attrs).length := by
  induction attrs with
  | nil => simp
  | cons attr rest ih =>
      rw [attrsBytes_cons, List.length_append, attrBytes_length, List.length_cons]
      simp only [Netlink.hdrlen]
      omega

theorem attr_length_le {attrs : List Attr} {attr : Attr} (here : attr ∈ attrs) :
    Netlink.hdrlen + attr.2.length ≤ (attrsBytes attrs).length := by
  induction attrs with
  | nil => cases here
  | cons head rest ih =>
      have more := Netlink.le_align head.2.length
      rw [attrsBytes_cons, List.length_append, attrBytes_length]
      rcases List.mem_cons.mp here with rfl | here
      · omega
      · have later := ih here
        omega

/-! ## Walking over a message -/

/-- The attributes a loop over these bytes visits. -/
def walk (bytes : List UInt8) : List Attr :=
  (Netlink.attrs (Octets.ofList bytes) 0 bytes.length).map fun nla =>
    (Netlink.attrType (Octets.ofList bytes) nla, Netlink.payload (Octets.ofList bytes) nla)

theorem attr_at (before after : List UInt8) {type : Nat} {payload : List UInt8}
    (small : type < 65536) (short : Netlink.hdrlen + payload.length < 65536) :
    let mem := Octets.ofList (before ++ (attrBytes type payload ++ after))
    Netlink.totalLen mem before.length = Netlink.hdrlen + payload.length ∧
      Netlink.attrType mem before.length = type ∧
      Netlink.payload mem before.length = payload := by
  intro mem
  have total : Netlink.totalLen mem before.length = Netlink.hdrlen + payload.length := by
    have word := Octets.word_ofList_leBytes before (leBytes 2 type ++ (payload ++
      List.replicate (Netlink.align payload.length - payload.length) 0) ++ after) 2
      (Netlink.hdrlen + payload.length) rfl
    rw [Nat.mod_eq_of_lt (by omega)] at word
    simpa [mem, Netlink.totalLen, attrBytes] using word
  refine ⟨total, ?_, ?_⟩
  · have word := Octets.word_ofList_leBytes
      (before ++ leBytes 2 (Netlink.hdrlen + payload.length)) (payload ++
        List.replicate (Netlink.align payload.length - payload.length) 0 ++ after) 2 type
      (show _ = before.length + 2 by simp)
    rw [Nat.mod_eq_of_lt (by omega)] at word
    simpa [mem, Netlink.attrType, attrBytes] using word
  · have length : (Netlink.payloadLen mem before.length).toNat = payload.length := by
      rw [Netlink.payloadLen, total]
      omega
    have bytes : before ++ (attrBytes type payload ++ after) =
        (before ++ (leBytes 2 (Netlink.hdrlen + payload.length) ++ leBytes 2 type)) ++
          (payload ++ (List.replicate (Netlink.align payload.length - payload.length) 0 ++
            after)) := by
      simp [attrBytes]
    have start : (before ++ (leBytes 2 (Netlink.hdrlen + payload.length) ++ leBytes 2 type)).length =
        before.length + Netlink.hdrlen := by simp [Netlink.hdrlen]
    rw [Netlink.payload, length, Netlink.data, ← start]
    simp only [mem, bytes]
    rw [Octets.fetch_ofList (by simp only [List.length_append]; omega), slice, List.drop_left,
      List.take_left]

theorem walk_behind (before : List UInt8) (attrs : List Attr)
    (fits : ∀ attr ∈ attrs, attr.1 < 65536 ∧ Netlink.hdrlen + attr.2.length < 65536) :
    let mem := Octets.ofList (before ++ attrsBytes attrs)
    (Netlink.attrs mem before.length (attrsBytes attrs).length).map
      (fun nla => (Netlink.attrType mem nla, Netlink.payload mem nla)) = attrs := by
  induction attrs generalizing before with
  | nil =>
      intro mem
      rw [attrsBytes_nil, Netlink.attrs_of_not_ok]
      · rfl
      · rintro ⟨room, -⟩
        simp [Netlink.hdrlen] at room
  | cons attr rest ih =>
      intro mem
      obtain ⟨type, payload⟩ := attr
      obtain ⟨small, short⟩ := fits _ List.mem_cons_self
      obtain ⟨total, typed, carried⟩ := attr_at before (attrsBytes rest) small short
      have later := ih (before ++ attrBytes type payload) fun attr here =>
        fits attr (List.mem_cons_of_mem _ here)
      have whole : mem = Octets.ofList ((before ++ attrBytes type payload) ++ attrsBytes rest) := by
        rw [List.append_assoc]
        rfl
      have length : (attrsBytes ((type, payload) :: rest)).length =
          Netlink.hdrlen + Netlink.align payload.length + (attrsBytes rest).length := by
        rw [attrsBytes_cons, List.length_append, attrBytes_length]
      have total' : Netlink.totalLen mem before.length = Netlink.hdrlen + payload.length := total
      have more := Netlink.le_align payload.length
      have ok : Netlink.Ok mem before.length (attrsBytes ((type, payload) :: rest)).length := by
        rw [length, Netlink.Ok, total']
        simp only [Netlink.hdrlen]
        omega
      have next : before.length + Netlink.align (Netlink.totalLen mem before.length) =
          (before ++ attrBytes type payload).length := by
        rw [total', align_header, List.length_append, attrBytes_length]
      have left : ((attrsBytes ((type, payload) :: rest)).length : Int) -
          Netlink.align (Netlink.totalLen mem before.length) = (attrsBytes rest).length := by
        rw [length, total', align_header]
        omega
      rw [Netlink.attrs_of_ok ok, List.map_cons, next, left]
      rw [← whole] at later
      rw [later]
      exact congrArg (· :: rest) (Prod.ext typed carried)

/-- Walking over assembled attributes gives them back. -/
theorem walk_attrsBytes {attrs : List Attr} (types : ∀ attr ∈ attrs, attr.1 < 65536)
    (short : (attrsBytes attrs).length < 65536) : walk (attrsBytes attrs) = attrs := by
  refine walk_behind [] attrs fun attr here => ⟨types attr here, ?_⟩
  have inside := attr_length_le here
  omega

/-- The same for attributes of which the last ones are numbered. -/
theorem walk_numbered {first : List Attr} (types : ∀ attr ∈ first, attr.1 < 65536)
    {payloads : Nat → List UInt8} {n : Nat}
    (short : (attrsBytes (first ++ (List.range n).map fun i => (i, payloads i))).length < 65536) :
    walk (attrsBytes (first ++ (List.range n).map fun i => (i, payloads i))) =
      first ++ (List.range n).map fun i => (i, payloads i) := by
  apply walk_attrsBytes _ short
  have many := attrsBytes_length_ge (first ++ (List.range n).map fun i => (i, payloads i))
  rw [List.length_append, List.length_map, List.length_range] at many
  intro attr here
  rcases List.mem_append.mp here with here | here
  · exact types attr here
  · obtain ⟨i, small, rfl⟩ := List.mem_map.mp here
    have below := List.mem_range.mp small
    show i < 65536
    omega

theorem types_small {attrs : List Attr}
    (small : attrs.all (fun attr => decide (attr.1 < 65536)) = true) :
    ∀ attr ∈ attrs, attr.1 < 65536 :=
  fun attr here => of_decide_eq_true (List.all_eq_true.mp small attr here)

/-! ### Messages that lie in memory -/

section Memory
variable (mem : Octets) (start n : Nat)

/-- What an attribute inside a part of memory looks like in a copy of that part. -/
theorem attr_fetch {k : Nat} (whole : k + Netlink.hdrlen ≤ n) :
    Netlink.totalLen (Octets.ofList (mem.fetch start n)) k = Netlink.totalLen mem (start + k) ∧
      Netlink.attrType (Octets.ofList (mem.fetch start n)) k =
        Netlink.attrType mem (start + k) := by
  simp only [Netlink.hdrlen] at whole
  have copied : ∀ i, i + 2 ≤ n → (Octets.ofList (mem.fetch start n)).word i 2 =
      mem.word (start + i) 2 := by
    intro i inside
    rw [Octets.word, Octets.fetch_ofList (by simpa using inside), Octets.slice_fetch mem inside,
      Octets.word]
  exact ⟨copied k (by omega), by
    rw [Netlink.attrType, copied _ (by omega), Netlink.attrType, Nat.add_assoc]⟩

theorem payload_fetch {k : Nat}
    (whole : k + Netlink.totalLen mem (start + k) ≤ n)
    (least : Netlink.hdrlen ≤ Netlink.totalLen mem (start + k)) :
    Netlink.payload (Octets.ofList (mem.fetch start n)) k = Netlink.payload mem (start + k) := by
  have total := (attr_fetch mem start n (k := k) (by omega)).1
  have length : (Netlink.payloadLen mem (start + k)).toNat =
      Netlink.totalLen mem (start + k) - Netlink.hdrlen := by
    rw [Netlink.payloadLen]
    omega
  have inside : k + Netlink.hdrlen + (Netlink.totalLen mem (start + k) - Netlink.hdrlen) ≤ n := by
    omega
  rw [Netlink.payload, Netlink.payloadLen, total, ← Netlink.payloadLen, length, Netlink.data,
    Octets.fetch_ofList (by simpa using inside), Octets.slice_fetch mem inside, Netlink.payload,
    length, Netlink.data, Nat.add_assoc]

/-- A loop over a part of memory visits the attributes of the bytes that lie there. -/
theorem walk_fetch :
    (Netlink.attrs mem start n).map
        (fun nla => (Netlink.attrType mem nla, Netlink.payload mem nla)) =
      walk (mem.fetch start n) := by
  have main : ∀ (k : Nat) (rem : Int), k + rem ≤ n →
      (Netlink.attrs mem (start + k) rem).map
          (fun nla => (Netlink.attrType mem nla, Netlink.payload mem nla)) =
        (Netlink.attrs (Octets.ofList (mem.fetch start n)) k rem).map fun nla =>
          (Netlink.attrType (Octets.ofList (mem.fetch start n)) nla,
            Netlink.payload (Octets.ofList (mem.fetch start n)) nla) := by
    intro k rem
    induction k, rem using Netlink.walk_induction (Octets.ofList (mem.fetch start n)) with
    | stop k rem stop =>
        intro inside
        have stop' : ¬ Netlink.Ok mem (start + k) rem := by
          intro ok
          obtain ⟨room, least, most⟩ := id ok
          have same := (attr_fetch mem start n (k := k) (by omega)).1
          exact stop (by rw [Netlink.Ok, same]; exact ok)
        rw [Netlink.attrs_of_not_ok stop, Netlink.attrs_of_not_ok stop']
        rfl
    | next k rem ok ih =>
        intro inside
        obtain ⟨room, least, most⟩ := id ok
        obtain ⟨same, type⟩ := attr_fetch mem start n (k := k) (by omega)
        have more := Netlink.le_align (Netlink.totalLen mem (start + k))
        rw [same] at ih least most
        have ok' : Netlink.Ok mem (start + k) rem := ⟨room, least, most⟩
        have later := ih (by push_cast; omega)
        rw [Netlink.attrs_of_ok ok, Netlink.attrs_of_ok ok', List.map_cons, List.map_cons, same,
          type, payload_fetch mem start n (by omega) least]
        rw [← Nat.add_assoc] at later
        rw [later]
  have whole := main 0 n (by omega)
  rw [Nat.add_zero] at whole
  rw [whole, walk, Octets.fetch_length]

end Memory

/-- The payload of the last attribute of a type, flags aside. -/
def lastOf (attrs : List Attr) (type : Nat) : Option (List UInt8) :=
  ((attrs.filter fun attr => attr.1 % 2 ^ 14 = type).getLast?).map Prod.snd

/-- What a table of the attributes in a part of memory refers to. -/
theorem table_payload (mem : Octets) (start n type : Nat) :
    (Netlink.table mem start n type).map (Netlink.payload mem) =
      lastOf (walk (mem.fetch start n)) type := by
  rw [lastOf, ← walk_fetch, List.filter_map, List.getLast?_map, Option.map_map]
  rfl

theorem lastOf_append {attrs rest : List Attr} {type : Nat}
    (absent : ∀ attr ∈ rest, attr.1 % 2 ^ 14 ≠ type) :
    lastOf (attrs ++ rest) type = lastOf attrs type := by
  have nothing : rest.filter (fun attr => attr.1 % 2 ^ 14 = type) = [] :=
    List.filter_eq_nil_iff.mpr fun attr here => by simpa using absent attr here
  rw [lastOf, List.filter_append, nothing, List.append_nil, lastOf]

theorem lastOf_concat {attrs : List Attr} {type : Nat} (payload : List UInt8)
    (small : type < 2 ^ 14) : lastOf (attrs ++ [(type, payload)]) type = some payload := by
  have here : [(type, payload)].filter (fun attr : Attr => attr.1 % 2 ^ 14 = type) =
      [(type, payload)] := by
    simpa using small
  rw [lastOf, List.filter_append, here, List.getLast?_concat, Option.map_some]

/-! ## Reading attributes -/

def payloadOf (attrs : List Attr) (type : Nat) : Option (List UInt8) :=
  (attrs.find? fun attr => attr.1 == type).map Prod.snd

theorem payloadOf_append {attrs rest : List Attr} {type : Nat}
    (absent : attrs.find? (fun attr => attr.1 == type) = none) :
    payloadOf (attrs ++ rest) type = payloadOf rest type := by
  rw [payloadOf, List.find?_append, absent, Option.none_or, payloadOf]

def word (width : Nat) (payload : List UInt8) : Option UInt32 :=
  if payload.length = width then some (.ofNat (leValue payload)) else none

def wordOf (width : Nat) (attrs : List Attr) (type : Nat) : Option UInt32 :=
  (payloadOf attrs type).bind (word width)

def indexed (attrs : List Attr) : Option (List (List UInt8)) :=
  if attrs.map Prod.fst = List.range attrs.length then some (attrs.map Prod.snd) else none

/-- A list of the announced length. -/
def counted {α : Type} (count : Nat) (items : List α) : Option (List α) :=
  if items.length = count then some items else none

theorem word_leBytes {width : Nat} {value : UInt32} (small : value.toNat < 256 ^ width) :
    word width (leBytes width value.toNat) = some value := by
  rw [word, if_pos (leBytes_length width _), leValue_leBytes, Nat.mod_eq_of_lt small,
    UInt32.ofNat_toNat]

@[simp] theorem word_leBytes_four (value : UInt32) :
    word 4 (leBytes 4 value.toNat) = some value := word_leBytes value.toNat_lt

theorem indexed_map (payloads : Nat → List UInt8) (n : Nat) :
    indexed ((List.range n).map fun i => (i, payloads i)) = some ((List.range n).map payloads) := by
  simp [indexed, Function.comp_def]

theorem counted_map {α : Type} (items : Nat → α) (n : Nat) :
    counted n ((List.range n).map items) = some ((List.range n).map items) :=
  if_pos (by simp)

/-- Reading back element by element what was written element by element. -/
theorem mapM_map {α β : Type} {write : Nat → α} {read : α → Option β} {items : Nat → β}
    {indices : List Nat} (back : ∀ i ∈ indices, read (write i) = some (items i)) :
    (indices.map write).mapM read = some (indices.map items) := by
  induction indices with
  | nil => rfl
  | cons i rest ih =>
      have later := ih fun j here => back j (List.mem_cons_of_mem _ here)
      rw [List.map_cons, List.mapM_cons, back i List.mem_cons_self, later]
      rfl

theorem mapM_length {α β : Type} {read : α → Option β} {items : List α} {results : List β}
    (each : items.mapM read = some results) : results.length = items.length := by
  induction items generalizing results with
  | nil =>
      obtain rfl := Option.some.inj each
      rfl
  | cons item rest ih =>
      rw [List.mapM_cons] at each
      obtain ⟨first, -, later⟩ := Option.bind_eq_some_iff.mp each
      obtain ⟨others, mapped, whole⟩ := Option.bind_eq_some_iff.mp later
      obtain rfl := Option.some.inj whole
      rw [List.length_cons, List.length_cons, ih mapped]

/-! ## Assembling a message -/

/-- How a piece of code that assembles a message ends: it goes on, it returns early, or it
closes a nest that was never opened. -/
inductive Built (α : Type) where
  | ok (value : α) (msg : List UInt8)
  | returned (code : Int)
  | nullNest

def Builder (α : Type) : Type := List UInt8 → Built α

instance : Monad Builder where
  pure value := fun msg => .ok value msg
  bind run next := fun msg =>
    match run msg with
    | .ok value msg => next value msg
    | .returned code => .returned code
    | .nullNest => .nullNest

section Bind

variable {α β : Type} {run : Builder α} {next : α → Builder β} {msg msg' : List UInt8}

theorem bind_ok {value : α} (ran : run msg = .ok value msg') :
    (run >>= next) msg = next value msg' := by
  show (match run msg with
    | .ok value msg => next value msg
    | .returned code => .returned code
    | .nullNest => .nullNest) = _
  rw [ran]

theorem bind_returned {code : Int} (returned : run msg = .returned code) :
    (run >>= next) msg = .returned code := by
  show (match run msg with
    | .ok value msg => next value msg
    | .returned code => .returned code
    | .nullNest => .nullNest) = _
  rw [returned]

end Bind

def exit {α : Type} (code : Int) : Builder α := fun _ => .returned code

/-- `result = ...; if (result < 0) return result;` -/
def orReturn (run : Builder Int) : Builder Int := do
  let result ← run
  if result < 0 then exit result else pure result

/-- `for (i = index; i < index + count; i++)`, with a result that the body may replace. -/
def loop (body : Nat → Int → Builder Int) : Nat → Nat → Int → Builder Int
  | 0, _, result => pure result
  | count + 1, index, result => do
      let result ← body index result
      loop body count (index + 1) result

/-- The attribute that a nest becomes; a library may take the header of an empty one away. -/
def nestAttrs (trims : Bool) (type : Nat) (attrs : List Attr) : List Attr :=
  if trims = true ∧ attrs = [] then [] else [(type, attrsBytes attrs)]

/-- The library that owns the buffer, with `room` bytes for attributes: its functions, and what
is documented of them.  An attribute is added whole or not at all; closing a nest writes the
length of what follows its header. -/
structure NlLib where
  room : Nat
  trims : Bool
  put : Nat → List UInt8 → Builder Int
  nestStart : Nat → Builder (Option Nat)
  nestClose : Nat → Builder Unit
  put_fits : ∀ {type payload msg}, (msg ++ attrBytes type payload).length ≤ room →
    put type payload msg = .ok 0 (msg ++ attrBytes type payload)
  put_full : ∀ {type payload msg}, ¬ (msg ++ attrBytes type payload).length ≤ room →
    ∃ code, code < 0 ∧ put type payload msg = .ok code msg
  nestStart_fits : ∀ {type msg}, (msg ++ attrBytes type []).length ≤ room →
    nestStart type msg = .ok (some msg.length) (msg ++ attrBytes type [])
  nestStart_full : ∀ {type msg}, ¬ (msg ++ attrBytes type []).length ≤ room →
    nestStart type msg = .ok none msg
  nestClose_inside : ∀ {type msg attrs},
    (msg ++ attrBytes type [] ++ attrsBytes attrs).length ≤ room →
    nestClose msg.length (msg ++ attrBytes type [] ++ attrsBytes attrs) =
      .ok () (msg ++ attrsBytes (nestAttrs trims type attrs))

namespace NlLib

section Paged

variable (room : Nat) (trims : Bool)

def noMemory : Int := -5

def nlaPut (type : Nat) (payload : List UInt8) : Builder Int := fun msg =>
  if (msg ++ attrBytes type payload).length ≤ room then .ok 0 (msg ++ attrBytes type payload)
  else .ok noMemory msg

def nlaNestStart (type : Nat) : Builder (Option Nat) := fun msg =>
  if (msg ++ attrBytes type []).length ≤ room then
    .ok (some msg.length) (msg ++ attrBytes type [])
  else .ok none msg

def nlaNestEnd (start : Nat) : Builder Unit := fun msg =>
  if trims = true ∧ msg.length - start = Netlink.hdrlen then .ok () (msg.take start)
  else .ok () (splice msg start 2 (leBytes 2 (msg.length - start)))

theorem nlaNestEnd_inside (type : Nat) (msg : List UInt8) (attrs : List Attr) :
    nlaNestEnd trims msg.length (msg ++ attrBytes type [] ++ attrsBytes attrs) =
      .ok () (msg ++ attrsBytes (nestAttrs trims type attrs)) := by
  have header : attrBytes type [] = leBytes 2 Netlink.hdrlen ++ leBytes 2 type := by
    simp [attrBytes, Netlink.align]
  have inside : (msg ++ attrBytes type [] ++ attrsBytes attrs).length - msg.length =
      Netlink.hdrlen + (attrsBytes attrs).length := by
    rw [header]
    simp only [List.length_append, leBytes_length, Netlink.hdrlen]
    omega
  have none_inside : (attrsBytes attrs).length = 0 ↔ attrs = [] := by
    have many := attrsBytes_length_ge attrs
    constructor
    · intro empty
      exact List.eq_nil_of_length_eq_zero (by omega)
    · rintro rfl
      rfl
  simp only [nlaNestEnd, nestAttrs, inside]
  by_cases trimmed : trims = true ∧ attrs = []
  · rw [if_pos trimmed, if_pos ⟨trimmed.1, by rw [none_inside.mpr trimmed.2, Nat.add_zero]⟩,
      List.append_assoc, List.take_left, attrsBytes_nil, List.append_nil]
  · rw [if_neg trimmed, if_neg fun both => trimmed ⟨both.1, none_inside.mp (by omega)⟩]
    have aligned : Netlink.align (attrsBytes attrs).length = (attrsBytes attrs).length := by
      have multiple := attrsBytes_aligned attrs
      rw [Netlink.align]
      omega
    have bytes : attrsBytes [(type, attrsBytes attrs)] =
        leBytes 2 (Netlink.hdrlen + (attrsBytes attrs).length) ++ (leBytes 2 type ++
          attrsBytes attrs) := by
      rw [attrsBytes_cons, attrsBytes_nil, List.append_nil, attrBytes, aligned]
      simp
    rw [bytes, header, splice]
    simp [List.append_assoc, List.drop_append]

def paged : NlLib where
  room := room
  trims := trims
  put := nlaPut room
  nestStart := nlaNestStart room
  nestClose := nlaNestEnd trims
  put_fits fits := if_pos fits
  put_full full := ⟨noMemory, by decide, if_neg full⟩
  nestStart_fits fits := if_pos fits
  nestStart_full full := if_neg full
  nestClose_inside _ := nlaNestEnd_inside trims _ _ _

end Paged

variable (lib : NlLib)

def nestEnd : Option Nat → Builder Unit
  | none => fun _ => .nullNest
  | some start => lib.nestClose start

def nested (type : Nat) (attrs : List Attr) : List Attr := nestAttrs lib.trims type attrs

theorem nested_types (type : Nat) (attrs : List Attr) :
    ∀ attr ∈ lib.nested type attrs, attr.1 = type := by
  intro attr here
  rw [nested, nestAttrs] at here
  split at here
  · cases here
  · rw [List.mem_singleton.mp here]

theorem nested_length (type : Nat) (attrs : List Attr) :
    (attrsBytes attrs).length ≤ (attrsBytes (lib.nested type attrs)).length := by
  rw [nested, nestAttrs]
  split
  next trimmed => rw [trimmed.2]
  next =>
    have inside := attr_length_le (List.mem_singleton_self (type, attrsBytes attrs))
    exact le_trans (Nat.le_add_left _ _) inside

theorem nested_length_le (type : Nat) (attrs : List Attr) :
    (attrsBytes (lib.nested type attrs)).length ≤ Netlink.hdrlen + (attrsBytes attrs).length := by
  rw [nested, nestAttrs]
  split
  · simp
  · have multiple := attrsBytes_aligned attrs
    simp only [attrsBytes_cons, attrsBytes_nil, List.append_nil, attrBytes_length, Netlink.align]
    omega

/-- What a nest contains, also if it was left out because it is empty. -/
theorem payloadOf_nested {first : List Attr} {type : Nat} (attrs : List Attr)
    (absent : first.find? (fun attr => attr.1 == type) = none) :
    (payloadOf (first ++ lib.nested type attrs) type).getD [] = attrsBytes attrs := by
  rw [payloadOf_append absent, nested, nestAttrs]
  split
  next trimmed =>
    rw [trimmed.2]
    rfl
  next => simp [payloadOf]

theorem nested_of_ne (type : Nat) {attrs : List Attr} (some_inside : attrs ≠ []) :
    lib.nested type attrs = [(type, attrsBytes attrs)] :=
  if_neg fun both => some_inside both.2

/-- From a message of at most `limit` bytes the run returns a negative code early, or adds
these attributes. -/
def Emits (limit : Nat) (run : Builder Int) (attrs : List Attr) : Prop :=
  ∀ msg, msg.length ≤ limit → msg.length ≤ lib.room →
    (∃ code, code < 0 ∧ run msg = .returned code) ∨
      (msg ++ attrsBytes attrs).length ≤ lib.room ∧ run msg = .ok 0 (msg ++ attrsBytes attrs)

/-- Where not even a header fits, the run returns a negative code early. -/
def Refuses (run : Builder Int) : Prop :=
  ∀ msg, lib.room < msg.length + Netlink.hdrlen → ∃ code, code < 0 ∧ run msg = .returned code

variable {lib} {limit : Nat} {run : Builder Int} {next : Int → Builder Int}
  {attrs rest : List Attr}

theorem emits_pure : lib.Emits limit (pure 0) [] := by
  intro msg _ fits
  refine .inr ⟨by simpa using fits, ?_⟩
  rw [attrsBytes_nil, List.append_nil]
  rfl

theorem Emits.mono {less : Nat} (emits : lib.Emits limit run attrs) (le : less ≤ limit) :
    lib.Emits less run attrs :=
  fun msg short fits => emits msg (le_trans short le) fits

theorem Emits.anywhere (all : lib.Emits lib.room run attrs) : lib.Emits limit run attrs :=
  fun msg _ fits => all msg fits fits

theorem Emits.bind (first : lib.Emits limit run attrs)
    (second : lib.Emits (limit + (attrsBytes attrs).length) (next 0) rest) :
    lib.Emits limit (run >>= next) (attrs ++ rest) := by
  intro msg short fits
  rcases first msg short fits with ⟨code, negative, returned⟩ | ⟨fits', ran⟩
  · exact .inl ⟨code, negative, bind_returned returned⟩
  · rw [bind_ok ran, attrsBytes_append, ← List.append_assoc]
    exact second _ (by rw [List.length_append]; omega) fits'

theorem Refuses.bind (refuses : lib.Refuses run) : lib.Refuses (run >>= next) := by
  intro msg full
  obtain ⟨code, negative, returned⟩ := refuses msg full
  exact ⟨code, negative, bind_returned returned⟩

theorem emits_put (type : Nat) (payload : List UInt8) :
    lib.Emits limit (orReturn (lib.put type payload)) [(type, payload)] := by
  intro msg _ _
  have bytes : attrsBytes [(type, payload)] = attrBytes type payload := by
    rw [attrsBytes_cons, attrsBytes_nil, List.append_nil]
  rw [bytes]
  by_cases fits : (msg ++ attrBytes type payload).length ≤ lib.room
  · refine .inr ⟨fits, ?_⟩
    rw [orReturn, bind_ok (lib.put_fits fits)]
    rfl
  · obtain ⟨code, negative, ran⟩ := lib.put_full fits
    refine .inl ⟨code, negative, ?_⟩
    rw [orReturn, bind_ok ran, if_pos negative]
    rfl

theorem refuses_put (type : Nat) (payload : List UInt8) :
    lib.Refuses (orReturn (lib.put type payload)) := by
  intro msg full
  have no_room : ¬ (msg ++ attrBytes type payload).length ≤ lib.room := by
    rw [List.length_append, attrBytes_length]
    omega
  obtain ⟨code, negative, ran⟩ := lib.put_full no_room
  refine ⟨code, negative, ?_⟩
  rw [orReturn, bind_ok ran, if_pos negative]
  rfl

theorem emits_loop {body : Nat → Int → Builder Int} {attrsOf : Nat → List Attr} (count index : Nat)
    (turn : ∀ i, index ≤ i → i < index + count → lib.Emits lib.room (body i 0) (attrsOf i)) :
    lib.Emits limit (loop body count index 0) ((List.range' index count).flatMap attrsOf) := by
  induction count generalizing index limit with
  | zero => exact emits_pure
  | succ count ih =>
      rw [List.range'_succ, List.flatMap_cons, loop]
      refine Emits.bind (turn index (le_refl _) (by omega)).anywhere (ih (index + 1) ?_)
      intro i low high
      exact turn i (by omega) (by omega)

/-- A loop that adds one attribute each turn. -/
theorem emits_loop_one {body : Nat → Int → Builder Int} {attrOf : Nat → Attr} (count : Nat)
    (turn : ∀ i < count, lib.Emits lib.room (body i 0) [attrOf i]) :
    lib.Emits limit (loop body count 0 0) ((List.range count).map attrOf) := by
  have turns := @emits_loop lib limit body (fun i => [attrOf i]) count 0 fun i _ small =>
    turn i (by omega)
  rw [← List.range_eq_range'] at turns
  exact List.flatMap_pure_eq_map attrOf (List.range count) ▸ turns

theorem refuses_loop {body : Nat → Int → Builder Int} {count index : Nat} (some_turn : 0 < count)
    (first : lib.Refuses (body index 0)) : lib.Refuses (loop body count index 0) := by
  obtain ⟨count, rfl⟩ := Nat.exists_eq_add_of_lt some_turn
  rw [Nat.zero_add, loop]
  exact first.bind

/-- Closing the nest that was opened at the end of a message. -/
theorem nestEnd_eq (type : Nat) (msg : List UInt8) (attrs : List Attr)
    (fits : (msg ++ attrBytes type [] ++ attrsBytes attrs).length ≤ lib.room) :
    lib.nestEnd (some msg.length) (msg ++ attrBytes type [] ++ attrsBytes attrs) =
      .ok () (msg ++ attrsBytes (lib.nested type attrs)) :=
  lib.nestClose_inside fits

/-- A nest that is opened without a check, where its header surely fits or its contents
would refuse to be added as well. -/
theorem emits_nest (type : Nat) (final : Int → Int) (success : final 0 = 0)
    (opens : limit + Netlink.hdrlen ≤ lib.room ∨ lib.Refuses run)
    (body : lib.Emits (limit + Netlink.hdrlen) run attrs) :
    lib.Emits limit (do
      let nest ← lib.nestStart type
      let result ← run
      lib.nestEnd nest
      pure (final result)) (lib.nested type attrs) := by
  intro msg short fits
  have header : (attrBytes type []).length = Netlink.hdrlen := by
    rw [attrBytes_length]
    rfl
  by_cases room : (msg ++ attrBytes type []).length ≤ lib.room
  · have opened : lib.nestStart type msg = .ok (some msg.length) (msg ++ attrBytes type []) :=
      lib.nestStart_fits room
    rw [bind_ok opened]
    rcases body _ (by rw [List.length_append, header]; omega) room with
      ⟨code, negative, returned⟩ | ⟨fits', ran⟩
    · exact .inl ⟨code, negative, bind_returned returned⟩
    · rw [bind_ok ran, bind_ok (nestEnd_eq type msg attrs fits')]
      refine .inr ⟨?_, by rw [success]; rfl⟩
      have no_longer := lib.nested_length_le type attrs
      rw [List.length_append, List.length_append, header] at fits'
      rw [List.length_append]
      omega
  · have failed : lib.nestStart type msg = .ok none msg := lib.nestStart_full room
    rw [bind_ok failed]
    rw [List.length_append, header] at room
    rcases opens with early | refuses
    · omega
    · obtain ⟨code, negative, returned⟩ := refuses msg (by omega)
      exact .inl ⟨code, negative, bind_returned returned⟩

theorem emits_checked_nest (type : Nat) {code : Int} (negative : code < 0)
    (body : lib.Emits lib.room run attrs) :
    lib.Emits limit (do
      let nest ← lib.nestStart type
      if nest = none then exit code
      else do
        let result ← run
        lib.nestEnd nest
        pure result) (lib.nested type attrs) := by
  intro msg short fits
  by_cases room : (msg ++ attrBytes type []).length ≤ lib.room
  · -- an opened nest passes the check, and goes on as one without
    have opened : lib.nestStart type msg = .ok (some msg.length) (msg ++ attrBytes type []) :=
      lib.nestStart_fits room
    have header : (attrBytes type []).length = Netlink.hdrlen := by
      rw [attrBytes_length]
      rfl
    have unchecked := @emits_nest lib msg.length run attrs type id rfl
      (.inl (by rw [List.length_append, header] at room; exact room)) body.anywhere msg
      (le_refl _) fits
    rw [bind_ok opened] at unchecked ⊢
    exact unchecked
  · have failed : lib.nestStart type msg = .ok none msg := lib.nestStart_full room
    exact .inl ⟨code, negative, by rw [bind_ok failed]; rfl⟩

/-- A `put` whose result is not looked at, where there surely is room. -/
theorem emits_unchecked_put (type : Nat) (payload : List UInt8)
    (opens : limit + (attrBytes type payload).length ≤ lib.room) :
    lib.Emits limit (lib.put type payload) [(type, payload)] := by
  intro msg short _
  have bytes : attrsBytes [(type, payload)] = attrBytes type payload := by
    rw [attrsBytes_cons, attrsBytes_nil, List.append_nil]
  have fits : (msg ++ attrBytes type payload).length ≤ lib.room := by
    rw [List.length_append]
    omega
  rw [bytes]
  exact .inr ⟨fits, lib.put_fits fits⟩

/-! ### Where there is room -/

/-- Where there is room for all of it, the run adds these attributes. -/
def Completes (lib : NlLib) (run : Builder Int) (attrs : List Attr) : Prop :=
  ∀ msg, (msg ++ attrsBytes attrs).length ≤ lib.room → run msg = .ok 0 (msg ++ attrsBytes attrs)

theorem completes_pure : lib.Completes (pure 0) [] := by
  intro msg _
  rw [attrsBytes_nil, List.append_nil]
  rfl

theorem Completes.bind (first : lib.Completes run attrs) (second : lib.Completes (next 0) rest) :
    lib.Completes (run >>= next) (attrs ++ rest) := by
  intro msg room
  rw [attrsBytes_append, ← List.append_assoc] at room ⊢
  have before : (msg ++ attrsBytes attrs).length ≤ lib.room := by
    rw [List.length_append] at room
    omega
  rw [bind_ok (first msg before)]
  exact second _ room

theorem completes_put (type : Nat) (payload : List UInt8) :
    lib.Completes (lib.put type payload) [(type, payload)] := by
  intro msg room
  rw [attrsBytes_cons, attrsBytes_nil, List.append_nil] at room ⊢
  exact lib.put_fits room

theorem completes_checked_put (type : Nat) (payload : List UInt8) :
    lib.Completes (orReturn (lib.put type payload)) [(type, payload)] := by
  intro msg room
  rw [orReturn, bind_ok (completes_put type payload msg room)]
  rfl

theorem completes_loop {body : Nat → Int → Builder Int} {attrsOf : Nat → List Attr}
    (count index : Nat)
    (turn : ∀ i, index ≤ i → i < index + count → lib.Completes (body i 0) (attrsOf i)) :
    lib.Completes (loop body count index 0) ((List.range' index count).flatMap attrsOf) := by
  induction count generalizing index with
  | zero => exact completes_pure
  | succ count ih =>
      rw [List.range'_succ, List.flatMap_cons, loop]
      refine Completes.bind (turn index (le_refl _) (by omega)) (ih (index + 1) ?_)
      intro i low high
      exact turn i (by omega) (by omega)

theorem completes_loop_one {body : Nat → Int → Builder Int} {attrOf : Nat → Attr} (count : Nat)
    (turn : ∀ i < count, lib.Completes (body i 0) [attrOf i]) :
    lib.Completes (loop body count 0 0) ((List.range count).map attrOf) := by
  have turns := @completes_loop lib body (fun i => [attrOf i]) count 0 fun i _ small =>
    turn i (by omega)
  rw [← List.range_eq_range'] at turns
  exact List.flatMap_pure_eq_map attrOf (List.range count) ▸ turns

/-- A nest with something in it. -/
theorem completes_nest (type : Nat) (final : Int → Int) (success : final 0 = 0)
    (some_inside : attrs ≠ []) (body : lib.Completes run attrs) :
    lib.Completes (do
      let nest ← lib.nestStart type
      let result ← run
      lib.nestEnd nest
      pure (final result)) [(type, attrsBytes attrs)] := by
  intro msg room
  have header : (attrBytes type []).length = Netlink.hdrlen := by
    rw [attrBytes_length]
    rfl
  have whole : (msg ++ attrBytes type [] ++ attrsBytes attrs).length ≤ lib.room := by
    have more := Netlink.le_align (attrsBytes attrs).length
    simp only [attrsBytes_cons, attrsBytes_nil, List.append_nil, List.length_append,
      attrBytes_length] at room
    rw [List.length_append, List.length_append, header]
    omega
  have opened : lib.nestStart type msg = .ok (some msg.length) (msg ++ attrBytes type []) := by
    refine lib.nestStart_fits ?_
    rw [List.length_append] at whole
    omega
  rw [bind_ok opened, bind_ok (body _ whole), bind_ok (nestEnd_eq type msg attrs whole),
    lib.nested_of_ne _ some_inside, success]
  rfl

theorem completes_checked_nest (type : Nat) (code : Int) (some_inside : attrs ≠ [])
    (body : lib.Completes run attrs) :
    lib.Completes (do
      let nest ← lib.nestStart type
      if nest = none then exit code
      else do
        let result ← run
        lib.nestEnd nest
        pure result) [(type, attrsBytes attrs)] := by
  intro msg room
  have header : (attrBytes type []).length = Netlink.hdrlen := by
    rw [attrBytes_length]
    rfl
  have opened : lib.nestStart type msg = .ok (some msg.length) (msg ++ attrBytes type []) := by
    refine lib.nestStart_fits ?_
    simp only [attrsBytes_cons, attrsBytes_nil, List.append_nil, List.length_append,
      attrBytes_length] at room
    rw [List.length_append, header]
    omega
  have unchecked := completes_nest type id rfl some_inside body msg room
  rw [bind_ok opened] at unchecked ⊢
  exact unchecked

/-! ### With room to spare -/

/-- From a message of at most `limit` bytes the run adds these attributes. -/
def RunsWithin (limit : Nat) (run : Builder Int) (attrs : List Attr) : Prop :=
  ∀ msg, msg.length ≤ limit → run msg = .ok 0 (msg ++ attrsBytes attrs)

theorem Completes.runsWithin (completes : lib.Completes run attrs)
    (room : limit + (attrsBytes attrs).length ≤ lib.room) : RunsWithin limit run attrs := by
  intro msg short
  apply completes
  rw [List.length_append]
  omega

theorem RunsWithin.mono {less : Nat} (runs : RunsWithin limit run attrs) (le : less ≤ limit) :
    RunsWithin less run attrs :=
  fun msg short => runs msg (le_trans short le)

theorem runsWithin_put (type : Nat) (payload : List UInt8)
    (room : limit + (attrBytes type payload).length ≤ lib.room) :
    RunsWithin limit (orReturn (lib.put type payload)) [(type, payload)] := by
  apply (completes_checked_put type payload).runsWithin
  rw [attrsBytes_cons, attrsBytes_nil, List.append_nil]
  exact room

theorem RunsWithin.bind (first : RunsWithin limit run attrs)
    (second : RunsWithin (limit + (attrsBytes attrs).length) (next 0) rest) :
    RunsWithin limit (run >>= next) (attrs ++ rest) := by
  intro msg short
  rw [bind_ok (first msg short), attrsBytes_append, ← List.append_assoc]
  apply second
  rw [List.length_append]
  omega

/-- A nest, also one that stays empty. -/
theorem runsWithin_nest (type : Nat) (final : Int → Int) (success : final 0 = 0)
    (room : limit + Netlink.hdrlen + (attrsBytes attrs).length ≤ lib.room)
    (body : RunsWithin (limit + Netlink.hdrlen) run attrs) :
    RunsWithin limit (do
      let nest ← lib.nestStart type
      let result ← run
      lib.nestEnd nest
      pure (final result)) (lib.nested type attrs) := by
  intro msg short
  have header : (attrBytes type []).length = Netlink.hdrlen := by
    rw [attrBytes_length]
    rfl
  have opened : lib.nestStart type msg = .ok (some msg.length) (msg ++ attrBytes type []) := by
    refine lib.nestStart_fits ?_
    rw [List.length_append, header]
    omega
  have ran := body (msg ++ attrBytes type []) (by rw [List.length_append, header]; omega)
  have fits : (msg ++ attrBytes type [] ++ attrsBytes attrs).length ≤ lib.room := by
    rw [List.length_append, List.length_append, header]
    omega
  rw [bind_ok opened, bind_ok ran, bind_ok (nestEnd_eq type msg attrs fits), success]
  rfl

/-! ### A list of attributes -/

/-- One `put` with a check of its result after another. -/
def putEach (lib : NlLib) : List Attr → Int → Builder Int
  | [], result => pure result
  | attr :: rest, _ => do
      let result ← orReturn (lib.put attr.1 attr.2)
      lib.putEach rest result

theorem completes_putEach (attrs : List Attr) : lib.Completes (lib.putEach attrs 0) attrs := by
  induction attrs with
  | nil => exact completes_pure
  | cons attr rest ih => exact (completes_checked_put attr.1 attr.2).bind ih

end NlLib

end NlMessage
