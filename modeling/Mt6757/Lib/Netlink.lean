import Mathlib.Tactic.Linarith
import Mt6757.Lib.MemAccess

/-!
# Netlink attributes in memory

An attribute is the position of its header: a length that counts the header, a type,
then the payload.  The next attribute starts at the next multiple of four.  A walk
over what an attribute contains is a position and the signed number of bytes left.
-/

set_option autoImplicit false

namespace Netlink

def hdrlen : Nat := 4

def align (length : Nat) : Nat := (length + 3) / 4 * 4

theorem le_align (length : Nat) : length ≤ align length := by
  rw [align]
  omega

variable (mem : Octets) (nla : Nat)

def totalLen : Nat := mem.word nla 2

def attrType : Nat := mem.word (nla + 2) 2

def data : Nat := nla + hdrlen

/-- `nla_len`, negative where the member counts less than a header. -/
def payloadLen : Int := totalLen mem nla - hdrlen

def payload : List UInt8 := mem.fetch (data nla) (payloadLen mem nla).toNat

/-- `nla_ok`. -/
def Ok (rem : Int) : Prop :=
  hdrlen ≤ rem ∧ hdrlen ≤ totalLen mem nla ∧ totalLen mem nla ≤ rem

instance (rem : Int) : Decidable (Ok mem nla rem) := by unfold Ok; infer_instance

/-- The attributes met from `nla` on while `nla_ok` holds, for at most `fuel` of them. -/
def attrsFrom : Nat → Nat → Int → List Nat
  | 0, _, _ => []
  | fuel + 1, nla, rem =>
      if Ok mem nla rem then
        nla :: attrsFrom fuel (nla + align (totalLen mem nla)) (rem - align (totalLen mem nla))
      else []

/-- The attributes a loop over `rem` bytes from `nla` on visits. -/
def attrs (rem : Int) : List Nat := attrsFrom mem rem.toNat nla rem

def inside : List Nat := attrs mem (data nla) (payloadLen mem nla)

variable {mem nla} {rem : Int}

/-- Every visited attribute takes four bytes at least, so the bound on their number
does not cut a walk short. -/
theorem attrsFrom_enough {fuel : Nat} (enough : rem ≤ fuel) :
    attrsFrom mem fuel nla rem = attrs mem nla rem := by
  have main : ∀ (fuel other : Nat) (nla : Nat) (rem : Int), rem ≤ fuel → rem ≤ other →
      attrsFrom mem fuel nla rem = attrsFrom mem other nla rem := by
    intro fuel
    induction fuel with
    | zero =>
        intro other nla rem small _
        have stop : ¬ Ok mem nla rem := by
          rintro ⟨room, -⟩
          simp only [hdrlen] at room
          omega
        cases other <;> simp [attrsFrom, stop]
    | succ fuel ih =>
        intro other nla rem small smallOther
        cases other with
        | zero =>
            have stop : ¬ Ok mem nla rem := by
              rintro ⟨room, -⟩
              simp only [hdrlen] at room
              omega
            simp [attrsFrom, stop]
        | succ other =>
            by_cases here : Ok mem nla rem
            · obtain ⟨-, least, -⟩ := here
              have step := le_align (totalLen mem nla)
              simp only [hdrlen] at least
              simp only [attrsFrom]
              rw [ih other _ _ (by omega) (by omega)]
            · simp [attrsFrom, here]
  exact main _ _ _ _ enough (by omega)

theorem attrs_of_ok (here : Ok mem nla rem) :
    attrs mem nla rem =
      nla :: attrs mem (nla + align (totalLen mem nla)) (rem - align (totalLen mem nla)) := by
  obtain ⟨room, least, -⟩ := id here
  have step := le_align (totalLen mem nla)
  simp only [hdrlen] at room least
  have one : (rem.toNat - 1) + 1 = rem.toNat := by omega
  rw [attrs, ← one, attrsFrom, if_pos here, attrsFrom_enough (by omega)]

theorem attrs_of_not_ok (stop : ¬ Ok mem nla rem) : attrs mem nla rem = [] := by
  rw [attrs]
  cases rem.toNat <;> simp [attrsFrom, stop]

/-- Attribute by attribute: what holds of a walk that stops, and of one that goes on
whenever it holds of the rest, holds of every walk. -/
theorem walk_induction (mem : Octets) {motive : Nat → Int → Prop}
    (stop : ∀ nla rem, ¬ Ok mem nla rem → motive nla rem)
    (next : ∀ nla rem, Ok mem nla rem →
      motive (nla + align (totalLen mem nla)) (rem - align (totalLen mem nla)) →
      motive nla rem) (nla : Nat) (rem : Int) : motive nla rem := by
  induction size : rem.toNat using Nat.strong_induction_on generalizing nla rem with
  | _ n ih =>
      by_cases here : Ok mem nla rem
      · obtain ⟨room, least, -⟩ := id here
        have step := le_align (totalLen mem nla)
        simp only [hdrlen] at room least
        exact next nla rem here (ih _ (by omega) _ _ rfl)
      · exact stop nla rem here

theorem mem_attrs {attr : Nat} (visited : attr ∈ attrs mem nla rem) :
    nla ≤ attr ∧ hdrlen ≤ totalLen mem attr ∧ (attr : Int) + totalLen mem attr ≤ nla + rem := by
  induction nla, rem using walk_induction mem with
  | stop nla rem stop => simp [attrs_of_not_ok stop] at visited
  | next nla rem here ih =>
      rw [attrs_of_ok here, List.mem_cons] at visited
      obtain ⟨-, least, most⟩ := here
      rcases visited with rfl | later
      · exact ⟨le_refl _, least, by omega⟩
      · obtain ⟨after, whole, inside⟩ := ih later
        exact ⟨by omega, whole, by omega⟩

theorem payloadLen_nonneg {attr : Nat} (visited : attr ∈ attrs mem nla rem) :
    0 ≤ payloadLen mem attr := by
  obtain ⟨-, whole, -⟩ := mem_attrs visited
  simp only [payloadLen, hdrlen] at whole ⊢
  omega

/-! ## Parsing into a table -/

section Parse
variable (mem nla)

def nlaType : Nat := attrType mem nla % 2 ^ 14

/-- The table that `nla_parse` fills: of several attributes of a type the last one. -/
def table (rem : Int) (type : Nat) : Option Nat :=
  ((attrs mem nla rem).filter fun attr => nlaType mem attr = type).getLast?

/-- `nla_parse` with a policy that asks for so many bytes at least. -/
def parse (rem : Int) (maxtype : Nat) (minlen : Nat → Nat) : Option (Nat → Option Nat) :=
  if (attrs mem nla rem).all fun attr =>
      maxtype < nlaType mem attr ∨ (minlen (nlaType mem attr) : Int) ≤ payloadLen mem attr then
    some (table mem nla rem)
  else none

def getU8 : UInt8 := mem (data nla)

def getU16 : UInt16 := UInt16.ofNat (mem.word (data nla) 2)

def getU32 : UInt32 := UInt32.ofNat (mem.word (data nla) 4)

def memcpy (dest : List UInt8) : List UInt8 :=
  let copied := (payload mem nla).take dest.length
  copied ++ dest.drop copied.length

theorem payload_take {n : Nat} (whole : (n : Int) ≤ payloadLen mem nla) :
    (payload mem nla).take n = mem.fetch (data nla) n := by
  rw [payload, Octets.fetch_take mem (by omega)]

theorem minlen_of_parse {rem : Int} {maxtype type : Nat} {minlen : Nat → Nat}
    {tb : Nat → Option Nat} {attr : Nat} (parsed : parse mem nla rem maxtype minlen = some tb)
    (known : type ≤ maxtype) (found : tb type = some attr) :
    (minlen type : Int) ≤ payloadLen mem attr := by
  rw [parse] at parsed
  split at parsed
  · next each =>
    obtain rfl := Option.some.inj parsed
    obtain ⟨visited, isType⟩ := List.mem_filter.mp (List.mem_of_getLast? found)
    have same := of_decide_eq_true isType
    have asked := of_decide_eq_true (List.all_eq_true.mp each attr visited)
    rw [same] at asked
    exact asked.resolve_left (Nat.not_lt_of_le known)
  · cases parsed

theorem memcpy_of_le {dest : List UInt8} (whole : (dest.length : Int) ≤ payloadLen mem nla) :
    memcpy mem nla dest = mem.fetch (data nla) dest.length := by
  rw [memcpy, payload_take mem nla whole, Octets.fetch_length, List.drop_length, List.append_nil]

end Parse

/-! ## The functions of a library -/

/-- The functions with which a library lets its callers walk and parse, with what their
documentation says of them.  A parsed table tells nothing of types above `maxtype`. -/
structure Reader where
  ok : Octets → Nat → Int → Bool
  next : Octets → Nat → Int → Nat × Int
  data : Nat → Nat
  len : Octets → Nat → Int
  parse : Octets → Nat → Int → (maxtype : Nat) → (minlen : Nat → Nat) → Option (Nat → Option Nat)
  ok_iff : ∀ mem nla rem, ok mem nla rem = true ↔ Ok mem nla rem
  next_of_ok : ∀ mem nla rem, Ok mem nla rem →
    next mem nla rem = (nla + align (totalLen mem nla), rem - align (totalLen mem nla))
  data_eq : ∀ nla, data nla = Netlink.data nla
  len_eq : ∀ mem nla, len mem nla = payloadLen mem nla
  parse_none : ∀ mem nla rem maxtype minlen, parse mem nla rem maxtype minlen = none ↔
    ∃ attr ∈ attrs mem nla rem, nlaType mem attr ≤ maxtype ∧
      payloadLen mem attr < minlen (nlaType mem attr)
  parse_last : ∀ mem nla rem maxtype minlen tb, parse mem nla rem maxtype minlen = some tb →
    ∀ type ≤ maxtype, tb type = table mem nla rem type

theorem parse_eq_none_iff (mem : Octets) (nla : Nat) (rem : Int) (maxtype : Nat)
    (minlen : Nat → Nat) :
    parse mem nla rem maxtype minlen = none ↔
      ∃ attr ∈ attrs mem nla rem, nlaType mem attr ≤ maxtype ∧
        payloadLen mem attr < minlen (nlaType mem attr) := by
  rw [parse, ite_eq_right_iff, List.all_eq_true]
  simp only [reduceCtorEq, imp_false, not_forall, decide_eq_true_eq, not_or, not_lt, not_le,
    exists_prop]

def Reader.plain : Reader where
  ok mem nla rem := decide (Ok mem nla rem)
  next mem nla rem := (nla + align (totalLen mem nla), rem - align (totalLen mem nla))
  data := Netlink.data
  len := payloadLen
  parse := Netlink.parse
  ok_iff _ _ _ := decide_eq_true_iff
  next_of_ok _ _ _ _ := rfl
  data_eq _ := rfl
  len_eq _ _ := rfl
  parse_none := parse_eq_none_iff
  parse_last mem nla rem maxtype minlen tb parsed type _ := by
    rw [Netlink.parse, Option.ite_none_right_eq_some] at parsed
    rw [← Option.some.inj parsed.2]

namespace Reader
variable (reader : Reader)

/-- `for (pos = head; nla_ok(pos, rem); pos = nla_next(pos, &rem))`, for so many turns at
most. -/
def walk (mem : Octets) : Nat → Nat × Int → List Nat
  | 0, _ => []
  | fuel + 1, (nla, rem) =>
      if reader.ok mem nla rem then nla :: walk mem fuel (reader.next mem nla rem) else []

theorem walk_eq {mem : Octets} {fuel nla : Nat} {rem : Int} (enough : rem ≤ fuel) :
    reader.walk mem fuel (nla, rem) = attrs mem nla rem := by
  rw [← attrsFrom_enough enough]
  clear enough
  induction fuel generalizing nla rem with
  | zero => rfl
  | succ fuel ih =>
      rw [walk, attrsFrom]
      by_cases here : Ok mem nla rem
      · rw [if_pos ((reader.ok_iff mem nla rem).mpr here), if_pos here,
          reader.next_of_ok mem nla rem here, ih]
      · rw [if_neg (mt (reader.ok_iff mem nla rem).mp here), if_neg here]

theorem walk_inside {mem : Octets} {fuel attr : Nat} (enough : payloadLen mem attr ≤ fuel) :
    reader.walk mem fuel (reader.data attr, reader.len mem attr) = inside mem attr := by
  rw [reader.data_eq, reader.len_eq, reader.walk_eq enough, inside]

/-- Any such library fails to parse where `parse` does, and otherwise has the same table. -/
theorem parse_eq (mem : Octets) (nla : Nat) (rem : Int) (maxtype : Nat) (minlen : Nat → Nat) :
    (reader.parse mem nla rem maxtype minlen = none ∧
        Netlink.parse mem nla rem maxtype minlen = none) ∨
      ∃ tb, reader.parse mem nla rem maxtype minlen = some tb ∧
        ∃ tb', Netlink.parse mem nla rem maxtype minlen = some tb' ∧
          ∀ type ≤ maxtype, tb type = tb' type := by
  have refused := (reader.parse_none mem nla rem maxtype minlen).trans
    (parse_eq_none_iff mem nla rem maxtype minlen).symm
  cases found : reader.parse mem nla rem maxtype minlen with
  | none => exact .inl ⟨rfl, refused.mp found⟩
  | some tb =>
      cases found' : Netlink.parse mem nla rem maxtype minlen with
      | none => rw [refused.mpr found'] at found; cases found
      | some tb' =>
          refine .inr ⟨tb, rfl, tb', rfl, fun type known => ?_⟩
          rw [reader.parse_last _ _ _ _ _ _ found type known]
          exact (Reader.plain.parse_last _ _ _ _ _ _ found' type known).symm

end Reader

/-! ## What a walk reads -/

variable (mem nla)

/-- `nla_ok` at every position of the walk: it reads a length only where a header
still fits. -/
def probesFrom : Nat → Nat → Int → List MemAccess
  | 0, _, _ => []
  | fuel + 1, nla, rem =>
      if hdrlen ≤ rem then
        .read nla 2 (nla + rem) ::
          if Ok mem nla rem then
            probesFrom fuel (nla + align (totalLen mem nla)) (rem - align (totalLen mem nla))
          else []
      else []

/-- `for (nl_iterator it(attr); it.has_next(); it.next())` visits these attributes. -/
def iterate (rem : Int) : Traced MemAccess (List Nat) :=
  ⟨attrs mem nla rem, probesFrom mem rem.toNat nla rem⟩

@[simp] theorem iterate_value (rem : Int) : (iterate mem nla rem).value = attrs mem nla rem := by
  simp only [iterate]

theorem probesFrom_fit (mem' : Octets) (fuel : Nat) (nla : Nat) (rem : Int) :
    ∀ probe ∈ probesFrom mem fuel nla rem, probe.Fits mem' := by
  induction fuel generalizing nla rem with
  | zero => simp [probesFrom]
  | succ fuel ih =>
      intro probe here
      rw [probesFrom] at here
      split at here
      next room =>
        simp only [hdrlen] at room
        rcases List.mem_cons.mp here with rfl | here
        · simp only [MemAccess.fits_read]
          omega
        · split at here
          · exact ih _ _ probe here
          · simp at here
      next => simp at here

@[simp] theorem iterate_safe (mem' : Octets) (rem : Int) :
    MemAccess.Safe mem' (iterate mem nla rem) :=
  probesFrom_fit mem mem' _ _ _

end Netlink
