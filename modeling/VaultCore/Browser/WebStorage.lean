import VaultCore.Data.OrderedMap
import VaultCore.Text.Utf16

/-!
# Storage of a browser

The items of `localStorage` or `sessionStorage`.  Each method may throw
instead, for example when the storage is full or blocked.
-/

namespace VaultCore

/-- A storage of the browser; each of its operations may throw. -/
structure WebStorage where
  items : OrderedMap JsString JsString := .empty
  getThrows : Bool := false
  setThrows : Bool := false
  removeThrows : Bool := false

namespace WebStorage

/-- `none` where the method throws. -/
def getItem (storage : WebStorage) (key : JsString) :
    Option (Option JsString) :=
  if storage.getThrows then none else some (storage.items.get? key)

/-- `storage.setItem`, which answers nothing where it throws. -/
def setItem (storage : WebStorage) (key value : JsString) :
    Option WebStorage :=
  if storage.setThrows then none
  else some { storage with items := storage.items.set key value }

/-- `storage.removeItem`, which answers nothing where it throws. -/
def removeItem (storage : WebStorage) (key : JsString) : Option WebStorage :=
  if storage.removeThrows then none
  else some { storage with items := storage.items.delete key }

end WebStorage

/-- A page has a storage or, without a window or a usable one, none. -/
abbrev PageStorage := Option WebStorage

namespace PageStorage

/-- The item, if it can be read and is there. -/
def read (storage : PageStorage) (key : JsString) : Option JsString := do
  let present ← storage
  let item ← present.getItem key
  item

/-- `setItem` where a throw is ignored. -/
def write (storage : PageStorage) (key value : JsString) : PageStorage :=
  storage.map fun present => (present.setItem key value).getD present

/-- `removeItem` where a throw is ignored. -/
def remove (storage : PageStorage) (key : JsString) : PageStorage :=
  storage.map fun present => (present.removeItem key).getD present

/-- The storage keeps what is written to it. -/
def Works (storage : PageStorage) : Prop :=
  ∃ present, storage = some present ∧ present.getThrows = false ∧
    present.setThrows = false

theorem read_write_self {storage : PageStorage} (works : storage.Works)
    (key value : JsString) :
    (storage.write key value).read key = some value := by
  obtain ⟨present, rfl, reads, writes⟩ := works
  simp [write, read, WebStorage.setItem, WebStorage.getItem, reads, writes]

end PageStorage

end VaultCore
