import LiveEditor.Files.Tree

/-! # Document stores

An editor loads and saves documents by their handles and leaves it to a store
what a handle means.  The file store takes handles as paths, from its root
unless they are absolute.  It saves a document beside its place first and then
renames it, so that the document is never half written.
-/

namespace LiveEditor

/-- What an editor asks of a place where documents are kept.  Saving may change
the store even when it fails. -/
class DocumentStore (σ : Type) where
  load : σ → (handle : Text) → Except FileError Text
  save : σ → (handle text : Text) → Except FileError Unit × σ

structure FileStore where
  tree : FileTree
  root : Path
  deriving Repr

namespace FileStore

def resolve (store : FileStore) (handle : Text) : Path :=
  store.root.join (Path.ofText handle)

def temporary (path : Path) : Path :=
  path.withFileName (path.fileName?.getD [] ++ ".tmp".toList)

def load (store : FileStore) (handle : Text) : Except FileError Text :=
  store.tree.readText (store.resolve handle)

def replaceFile (tree : FileTree) (path : Path) (bytes : List UInt8) :
    Except FileError Unit × FileTree :=
  match tree.write (temporary path) bytes with
  | .error error => (.error error, tree)
  | .ok written =>
      match written.locate (temporary path) with
      | .error error => (.error error, written)
      | .ok source =>
          match written.renameFile source bytes path with
          | .error error => (.error error, written)
          | .ok renamed => (.ok (), renamed)

def save (store : FileStore) (handle text : Text) :
    Except FileError Unit × FileStore :=
  let path := store.resolve handle
  let (made, prepared) := store.tree.makeParents path
  match made with
  | .error error => (.error error, { store with tree := prepared })
  | .ok () =>
      let (outcome, tree) := replaceFile prepared path (Utf8.encode text)
      (outcome, { store with tree })

instance : DocumentStore FileStore where
  load := load
  save := save

end FileStore

end LiveEditor
