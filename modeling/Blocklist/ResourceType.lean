/-!
# Resource types

What a request is for, and sets of such types.

* `ResourceType`          the fifteen types the rule engine knows, with their wire names;
* `ResourceTypes`         a set of types, one bit each;
* `ResourceTypes.toList`  its members in canonical order;
* `filterable`            the types a filter line can name;
* `usual`                 the types of a filter line that names none.
-/

namespace Blocklist

inductive ResourceType where
  | mainFrame | subFrame | stylesheet | script | image | font | object | xmlHttpRequest | ping
  | cspReport | media | webSocket | webTransport | webBundle | other
  deriving DecidableEq, Repr

namespace ResourceType

/-- every type, in canonical order -/
def all : List ResourceType :=
  [mainFrame, subFrame, stylesheet, script, image, font, object, xmlHttpRequest, ping, cspReport,
   media, webSocket, webTransport, webBundle, other]

theorem mem_all (t : ResourceType) : t ∈ all := by cases t <;> decide

/-- the position of a type in `all` -/
def index : ResourceType → Nat
  | mainFrame => 0 | subFrame => 1 | stylesheet => 2 | script => 3 | image => 4 | font => 5
  | object => 6 | xmlHttpRequest => 7 | ping => 8 | cspReport => 9 | media => 10 | webSocket => 11
  | webTransport => 12 | webBundle => 13 | other => 14

theorem index_lt (t : ResourceType) : t.index < 15 := by cases t <;> decide

theorem getElem?_all (t : ResourceType) : all[t.index]? = some t := by cases t <;> rfl

def wireName : ResourceType → String
  | mainFrame => "main_frame"
  | subFrame => "sub_frame"
  | stylesheet => "stylesheet"
  | script => "script"
  | image => "image"
  | font => "font"
  | object => "object"
  | xmlHttpRequest => "xmlhttprequest"
  | ping => "ping"
  | cspReport => "csp_report"
  | media => "media"
  | webSocket => "websocket"
  | webTransport => "webtransport"
  | webBundle => "webbundle"
  | other => "other"

def ofWireName? (name : String) : Option ResourceType :=
  all.find? fun t => t.wireName = name

theorem ofWireName?_wireName (t : ResourceType) : ofWireName? t.wireName = some t := by
  cases t <;> decide

end ResourceType

/-! ## sets of types -/

/-- a set of resource types: bit `t.index` says whether `t` is in it -/
structure ResourceTypes where
  mask : BitVec 15
  deriving DecidableEq, Repr

namespace ResourceTypes

def contains (s : ResourceTypes) (t : ResourceType) : Bool := s.mask.getLsbD t.index

instance : Membership ResourceType ResourceTypes := ⟨fun s t => s.contains t = true⟩

instance (t : ResourceType) (s : ResourceTypes) : Decidable (t ∈ s) :=
  inferInstanceAs (Decidable (s.contains t = true))

theorem mem_iff {t : ResourceType} {s : ResourceTypes} : t ∈ s ↔ s.mask.getLsbD t.index = true :=
  Iff.rfl

theorem ext_iff {s u : ResourceTypes} : s = u ↔ ∀ t, t ∈ s ↔ t ∈ u := by
  constructor
  · rintro rfl _; rfl
  · intro h
    cases s with
    | mk a =>
      cases u with
      | mk b =>
        congr 1
        refine BitVec.eq_of_getLsbD_eq fun i hi => ?_
        have ht : ResourceType.all[i]?.isSome := by
          simpa [ResourceType.all] using hi
        obtain ⟨t, ht⟩ := Option.isSome_iff_exists.mp ht
        have hidx : t.index = i := by
          have := ResourceType.getElem?_all t
          revert ht this
          match i, hi with
          | 0, _ | 1, _ | 2, _ | 3, _ | 4, _ | 5, _ | 6, _ | 7, _ | 8, _ | 9, _ | 10, _ | 11, _
          | 12, _ | 13, _ | 14, _ =>
            intro ht _
            cases Option.some.inj ht
            rfl
        have := h t
        simp only [mem_iff, hidx] at this
        exact Bool.eq_iff_iff.mpr this

def empty : ResourceTypes := ⟨0⟩
def all : ResourceTypes := ⟨0x7FFF⟩

/-- the set whose bit pattern is the low fifteen bits of `n` -/
def ofBits (n : Nat) : ResourceTypes := ⟨BitVec.ofNat 15 n⟩
def bits (s : ResourceTypes) : Nat := s.mask.toNat

def singleton (t : ResourceType) : ResourceTypes := ⟨BitVec.twoPow 15 t.index⟩

def union (s u : ResourceTypes) : ResourceTypes := ⟨s.mask ||| u.mask⟩
def inter (s u : ResourceTypes) : ResourceTypes := ⟨s.mask &&& u.mask⟩
def diff (s u : ResourceTypes) : ResourceTypes := ⟨s.mask &&& ~~~u.mask⟩
def isSubset (s u : ResourceTypes) : Bool := s.mask &&& u.mask == s.mask
def isEmpty (s : ResourceTypes) : Bool := s.mask == 0

instance : Union ResourceTypes := ⟨union⟩
instance : Inter ResourceTypes := ⟨inter⟩
instance : SDiff ResourceTypes := ⟨diff⟩
instance : EmptyCollection ResourceTypes := ⟨empty⟩

def insert (s : ResourceTypes) (t : ResourceType) : ResourceTypes := s ∪ singleton t

def ofList (ts : List ResourceType) : ResourceTypes := ts.foldl insert ∅

/-- the members, in canonical order -/
def toList (s : ResourceTypes) : List ResourceType := ResourceType.all.filter s.contains

def wireNames (s : ResourceTypes) : List String := s.toList.map ResourceType.wireName

theorem not_mem_empty (t : ResourceType) : t ∉ (∅ : ResourceTypes) := by
  cases t <;> decide

theorem mem_all (t : ResourceType) : t ∈ all := by cases t <;> decide

theorem mem_union {t : ResourceType} {s u : ResourceTypes} : t ∈ s ∪ u ↔ t ∈ s ∨ t ∈ u := by
  show ((s.mask ||| u.mask).getLsbD t.index = true) ↔ _
  simp [mem_iff]

theorem mem_diff {t : ResourceType} {s u : ResourceTypes} : t ∈ s \ u ↔ t ∈ s ∧ t ∉ u := by
  show ((s.mask &&& ~~~u.mask).getLsbD t.index = true) ↔ _
  simp [mem_iff, t.index_lt]

theorem mem_singleton {t u : ResourceType} : t ∈ singleton u ↔ t = u := by
  cases t <;> cases u <;> decide

theorem mem_insert {t u : ResourceType} {s : ResourceTypes} : t ∈ s.insert u ↔ t ∈ s ∨ t = u := by
  rw [insert, mem_union, mem_singleton]

theorem mem_toList {t : ResourceType} {s : ResourceTypes} : t ∈ s.toList ↔ t ∈ s := by
  simp [toList, ResourceType.mem_all, mem_iff, contains]

/-- the types a filter line can name -/
def filterable : ResourceTypes :=
  ofList [.script, .image, .stylesheet, .object, .xmlHttpRequest, .ping, .webSocket, .media, .font,
    .other, .subFrame]

/-- the types of a filter line that names none -/
def usual : ResourceTypes :=
  ofList [.script, .image, .stylesheet, .xmlHttpRequest, .subFrame, .other]

/-- the set with the given wire names, if every name is one -/
def ofWireNames? (names : List String) : Option ResourceTypes :=
  (names.mapM ResourceType.ofWireName?).map ofList

end ResourceTypes

end Blocklist
