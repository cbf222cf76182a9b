import MountHub.Proofs.Driver.Binding
import MountHub.Proofs.Json.Quoted

/-! What drivers derive from their additions, and write back into them. A memory driver has a
session, a folder driver has the folder that was asked for. The text that either writes reads
back as what it has, and a driver that is bound to that text derives the same from it. -/
namespace MountHub
open Json

inductive Derived where
  | session (token : String)
  | folder (root : String)
deriving DecidableEq

namespace Derived

def kind : Derived → DriverKind
  | .session _ => .memory
  | .folder _ => .folder

def toJson : Derived → Value
  | .session token => .object [("session",.string token)]
  | .folder root => .object [("root_folder",.string root)]

def text (derived : Derived) : String := derived.toJson.text

end Derived

namespace Driver

/-- What the driver has derived from its addition, once it has been bound. -/
def derived? : Driver → Option Derived
  | .memory driver => driver.addition.session.map .session
  | .folder driver => some (.folder driver.addition.rootFolder)
  | .external _ => none

/-- The text reads as the addition that the driver has now. -/
def ReadsBack (text : String) : Driver → Prop
  | .memory driver => MemoryAddition.read? text = .ok driver.addition
  | .folder driver => FolderAddition.read? text = .ok driver.addition
  | .external _ => False

/-- What the driver has is what its storage says, where that says something. -/
def Completes : Driver → Prop
  | .memory driver => ∃ given minted, MemoryAddition.read? driver.storage.addition = .ok given ∧
      driver.addition = { session := some (given.session.getD minted) }
  | .folder driver => FolderAddition.read? driver.storage.addition = .ok driver.addition ∧
      driver.addition.rootFolder ≠ ""
  | .external _ => True

end Driver

theorem Addition.isBlank_field (name text : String) :
    isBlank (Value.object [(name,.string text)]).text = false := by
  have start : (Value.object [(name,.string text)]).chars =
      '{' :: (fieldsChars [(name,.string text)] ++ ['}']) := by
    rw [Value.chars]
  have solid : Text.isBlank '{' = false := by decide
  rw [isBlank,Value.text,String.toList_ofList,start,List.all_cons,solid,Bool.false_and]

theorem Addition.read?_field {α : Type} (defaults : α) (ofTree? : Tree → Option α)
    (name text : String) :
    read? defaults ofTree? (Value.object [(name,.string text)]).text =
      match ofTree? (.object [(some name.toList,.string (some text.toList))]) with
      | some addition => .ok addition
      | none => .error .invalidAddition := by
  rw [read?,if_neg (by rw [isBlank_field]; decide),Value.text,String.toList_ofList,
    Tree.ofChars?_field]
  rfl

theorem Json.Tree.fields?_field (name : String) (tree : Tree) :
    fields? [name] (.object [(some name.toList,tree)]) = some [some tree] := by
  simp [fields?,named?,member?]

theorem MemoryAddition.read?_field (token : String) :
    read? (Value.object [("session",.string token)]).text = .ok { session := some token } := by
  have tree : ofTree? (.object [(some "session".toList,.string (some token.toList))]) =
      some { session := some token } := by
    rw [ofTree?,Tree.fields?_field]
    simp [Tree.orElse,session?,Tree.text?]
  rw [read?,Addition.read?_field,tree]

theorem FolderAddition.read?_field (root : String) :
    read? (Value.object [("root_folder",.string root)]).text = .ok { rootFolder := root } := by
  have tree : ofTree? (.object [(some "root_folder".toList,.string (some root.toList))]) =
      some { rootFolder := root } := by
    rw [ofTree?,Tree.fields?_field]
    simp [Tree.orElse,Tree.text?]
  rw [read?,Addition.read?_field,tree]

namespace Driver

variable {driver held : Driver} {outside : Outside} {storage : Storage} {derived : Derived}

theorem kind_of_derived? (has : driver.derived? = some derived) : driver.kind = derived.kind := by
  cases driver with
  | memory driver =>
    obtain ⟨token,_,rfl⟩ := Option.map_eq_some_iff.mp has
    rfl
  | folder driver =>
    obtain rfl := Option.some.inj has
    rfl
  | external => cases has

/-- A driver writes what it has derived, and nothing else. -/
theorem addition_of_derived? (has : driver.derived? = some derived) :
    driver.addition outside = .ok derived.toJson := by
  cases driver with
  | memory driver =>
    obtain ⟨token,session,rfl⟩ := Option.map_eq_some_iff.mp has
    rw [addition,MemoryAddition.toJson,session]
    rfl
  | folder driver =>
    obtain rfl := Option.some.inj has
    rfl
  | external => cases has

theorem readsBack_of_derived? (has : driver.derived? = some derived) :
    driver.ReadsBack derived.text := by
  cases driver with
  | memory driver =>
    obtain ⟨token,session,rfl⟩ := Option.map_eq_some_iff.mp has
    have same : driver.addition = { session := some token } := by
      rw [← session]
    rw [ReadsBack,same]
    exact MemoryAddition.read?_field token
  | folder driver =>
    obtain rfl := Option.some.inj has
    exact FolderAddition.read?_field driver.addition.rootFolder
  | external => cases has

theorem Completes.exists_derived (completes : driver.Completes) (built : driver.kind ≠ .external) :
    ∃ derived, driver.derived? = some derived := by
  cases driver with
  | memory driver =>
    obtain ⟨given,minted,_,same⟩ := completes
    exact ⟨_,by rw [derived?,same]; rfl⟩
  | folder driver => exact ⟨_,rfl⟩
  | external => exact absurd rfl built

/-- A memory driver has the session that the addition names, or else a new one. -/
theorem derived?_of_init_memory {given : MemoryAddition}
    (bound : driver.init outside storage = (.ok (),held)) (kind : driver.kind = .memory)
    (read : MemoryAddition.read? storage.addition = .ok given) :
    held.derived? = some (.session (given.session.getD outside.session)) := by
  have taken := init_eq_ok_iff.mp bound
  rw [kind] at taken
  cases taken with
  | memory _ found =>
    obtain rfl := Except.ok.inj (found.symm.trans read)
    rfl

/-- A session that the addition names is the one that the driver has. -/
theorem Completes.derived?_of_session {given : MemoryAddition} {token : String}
    (completes : driver.Completes) (kind : driver.kind = .memory)
    (read : MemoryAddition.read? driver.storage.addition = .ok given)
    (session : given.session = some token) : driver.derived? = some (.session token) := by
  cases driver with
  | memory driver =>
    obtain ⟨other,minted,found,same⟩ := completes
    obtain rfl := Except.ok.inj (found.symm.trans read)
    rw [derived?,same,session]
    rfl
  | folder | external => cases kind

theorem Completes.exists_read (completes : driver.Completes) (kind : driver.kind = .memory) :
    ∃ given, MemoryAddition.read? driver.storage.addition = .ok given := by
  cases driver with
  | memory driver =>
    obtain ⟨given,_,read,_⟩ := completes
    exact ⟨given,read⟩
  | folder | external => cases kind

/-- What a memory driver writes names a session. -/
theorem session_ne_none {given : MemoryAddition} (has : driver.derived? = some derived)
    (kind : driver.kind = .memory) (read : MemoryAddition.read? derived.text = .ok given) :
    given.session ≠ none := by
  cases derived with
  | session token =>
    rw [Derived.text,Derived.toJson,MemoryAddition.read?_field] at read
    rw [← Except.ok.inj read]
    nofun
  | folder =>
    rw [kind_of_derived? has] at kind
    cases kind

theorem Completes.ne_folder_empty (completes : driver.Completes)
    (has : driver.derived? = some derived) : derived ≠ .folder "" := by
  rintro rfl
  cases driver with
  | memory driver =>
    obtain ⟨_,_,wrong⟩ := Option.map_eq_some_iff.mp has
    cases wrong
  | folder driver => exact completes.2 (Derived.folder.inj (Option.some.inj has))
  | external => cases has

theorem completes_of_init_ok (bound : driver.init outside storage = (.ok (),held)) :
    held.Completes := by
  have taken := init_eq_ok_iff.mp bound
  generalize driver.kind = kind at taken
  cases taken with
  | @memory parsed _ read => exact ⟨parsed,outside.session,read,rfl⟩
  | folder read named => exact ⟨read,named⟩
  | external => trivial

/-- A driver that is bound to what another one has written derives the same. -/
theorem Completes.derived?_eq (completes : driver.Completes) (kind : driver.kind = derived.kind)
    (text : driver.storage.addition = derived.text) : driver.derived? = some derived := by
  cases driver with
  | memory driver =>
    cases derived with
    | session token =>
      obtain ⟨given,minted,read,same⟩ := completes
      change driver.storage.addition = _ at text
      rw [text,Derived.text,Derived.toJson,MemoryAddition.read?_field] at read
      obtain rfl := Except.ok.inj read
      rw [derived?,same]
      rfl
    | folder => cases kind
  | folder driver =>
    cases derived with
    | session => cases kind
    | folder root =>
      obtain ⟨read,_⟩ := completes
      change driver.storage.addition = _ at text
      rw [text,Derived.text,Derived.toJson,FolderAddition.read?_field] at read
      rw [derived?,← Except.ok.inj read]
  | external => cases derived <;> cases kind

theorem derived?_of_shutdown {done : Except DriverError Unit}
    (released : driver.shutdown outside = (done,held)) (has : driver.derived? = some derived) :
    held.derived? = some derived := by
  cases driver with
  | memory driver => exact (Prod.mk.inj released).2 ▸ has
  | folder driver => exact (Prod.mk.inj released).2 ▸ has
  | external => cases has

theorem completes_of_shutdown {done : Except DriverError Unit}
    (released : driver.shutdown outside = (done,held)) (completes : driver.Completes) :
    held.Completes := by
  cases driver with
  | memory driver => exact (Prod.mk.inj released).2 ▸ completes
  | folder driver => exact (Prod.mk.inj released).2 ▸ completes
  | external driver =>
    have kept := kind_of_shutdown released
    cases held with
    | external => trivial
    | memory | folder => cases kept

end Driver
end MountHub
