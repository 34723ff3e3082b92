import ArrayTransfer.Http.Connection
import Mathlib.Data.List.Induction

/-! Headers by their names. A connection has at most one header of a name, the one that was set last
    (`Connection.named_set`); a request has those of the connection and what was added to them, and is looked up from the
    front (`Header.find?_eq_head?`). -/

namespace ArrayTransfer

namespace Header

variable {a b : String}

theorem sameName_iff : sameName a b = true ↔ a.toList.map Char.toLower = b.toList.map Char.toLower := decide_eq_true_iff

theorem sameName_refl (a : String) : sameName a a = true := sameName_iff.mpr rfl

/-- Names that are the same are the same to any other. -/
theorem sameName_congr (h : sameName a b = true) (c : String) : sameName c a = sameName c b := by
  rw [sameName, sameName, sameName_iff.mp h]

theorem sameName_comm (a b : String) : sameName a b = sameName b a := by
  rw [Bool.eq_iff_iff, sameName_iff, sameName_iff, eq_comm]

/-- The headers of a name, in order. -/
def named (name : String) (headers : List Header) : List Header := headers.filter fun h => sameName h.1 name

theorem named_append (name : String) (headers more : List Header) :
    named name (headers ++ more) = named name headers ++ named name more := List.filter_append ..

theorem named_singleton (name : String) (h : Header) : named name [h] = if sameName h.1 name then [h] else [] :=
  List.filter_cons

theorem find?_eq_head? (name : String) (headers : List Header) :
    find? name headers = (named name headers).head?.map (·.2) := by
  induction headers with
  | nil => rfl
  | cons h rest ih =>
    obtain ⟨n, value⟩ := h
    rw [find?, named, List.filter_cons]
    split
    · rfl
    · exact ih

/-- What is of another name stays when the headers of a name are taken out, and what is of this name goes. -/
theorem named_filter (name other : String) (headers : List Header) :
    named name (headers.filter fun h => !sameName h.1 other) = if sameName other name then [] else named name headers := by
  unfold named
  rw [List.filter_filter]
  split
  · rename_i same
    rw [List.filter_eq_nil_iff]
    intro h _
    simp [sameName_congr same]
  · rename_i differ
    refine List.filter_congr fun h _ => ?_
    cases both : sameName h.1 name with
    | false => rfl
    | true =>
      have : sameName h.1 other = false := by
        rw [Bool.eq_false_iff, sameName_comm]
        intro same
        exact differ (sameName_congr both other ▸ same)
      rw [this]
      rfl

end Header

/-- A header that is set for every request to a store: one of any name, or that of the domain. -/
inductive Setting where
  | header (name value : String)
  | domain (value : String)

namespace Setting

/-- The header that is set. -/
def entry : Setting → Header
  | header name value => (name, value)
  | domain value => ("Host", value)

def apply (c : Connection) : Setting → Connection
  | header name value => c.withHeader name value
  | domain value => c.withDomain value

/-- The header that was set last of those of a name. -/
def last? (name : String) (settings : List Setting) : Option Header :=
  (Header.named name (settings.map entry)).getLast?

/-- The value that was set last for a name. -/
def value? (name : String) (settings : List Setting) : Option String := (last? name settings).map (·.2)

/-- A header that is set is the last of its name, and of other names it is not. -/
theorem last?_concat (name : String) (settings : List Setting) (s : Setting) :
    last? name (settings ++ [s]) = if Header.sameName s.entry.1 name then some s.entry else last? name settings := by
  rw [last?, List.map_append, List.map_singleton, Header.named_append, Header.named_singleton]
  split
  · exact List.getLast?_concat
  · rw [List.append_nil, last?]

end Setting

namespace Connection

variable {c : Connection} {baseUrl : String}

/-- The connection with some headers set one after the other. -/
def set (c : Connection) (settings : List Setting) : Connection := settings.foldl Setting.apply c

theorem headers_make (h : make baseUrl = .ok c) : c.headers = [] := by
  unfold make at h
  split at h
  · cases h
    rfl
  · cases h

/-- A header that is set is the only one of its name, and those of other names stay. -/
theorem named_apply (name : String) (c : Connection) (s : Setting) : Header.named name (s.apply c).headers =
    if Header.sameName s.entry.1 name then [s.entry] else Header.named name c.headers := by
  have set : (s.apply c).headers = c.headers.filter (fun h => !Header.sameName h.1 s.entry.1) ++ [s.entry] := by
    cases s <;> rfl
  rw [set, Header.named_append, Header.named_filter, Header.named_singleton]
  split
  · rfl
  · exact List.append_nil _

/-- After any settings a connection has the header of a name that was set last, and no other of that name. -/
theorem named_set (bare : c.headers = []) (settings : List Setting) (name : String) :
    Header.named name (c.set settings).headers = (Setting.last? name settings).toList := by
  -- The last setting decides, so that the induction is from the back.
  induction settings using List.reverseRecOn with
  | nil => rw [set, List.foldl_nil, bare]; rfl
  | append_singleton settings s ih =>
    rw [set, List.foldl_append, List.foldl_cons, List.foldl_nil, named_apply, Setting.last?_concat]
    split
    · rfl
    · exact ih

end Connection

end ArrayTransfer
