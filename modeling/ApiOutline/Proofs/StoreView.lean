import ApiOutline.Files.Write
import Mathlib.Logic.Function.Basic
import Mathlib.Tactic.SplitIfs

/-!
# What stands where in a store

`Store.sight?` says of every place of a store whether a directory or a file stands there, and what the
file holds. Each operation on a store changes this view in one place or makes directories on the way to
one, and a store is looked at through the view alone from here on: setting a file updates the view
(`sightIn_setFile`), and making directories adds to it (`sightIn_makeAll`), but nothing when it is done a
second time (`makeAll_again`). An entry that is set under a new name and removed again leaves a directory as
it was (`eraseEntry_setEntry`), in the order of its entries too. Nothing is assumed of the names in the
directories.
-/

namespace ApiOutline.Files

open Text (Bytes)

/-! ## The view -/

/-- What stands at a place: a file with its content, or a directory. -/
inductive Sight where
  | file (content : Bytes)
  | dir
deriving DecidableEq

/-- An entry seen from outside. -/
def Entry.sight : Entry → Sight
  | .file content => .file content
  | .dir _ => .dir

/-- What stands at the end of parts from a directory. -/
def sightIn (entries : Directory) (parts : List String) : Option Sight :=
  ((Entry.dir entries).find? parts).map Entry.sight

/-- A directory stands at its own place. -/
@[simp]
theorem sightIn_nil (entries : Directory) : sightIn entries [] = some .dir := rfl

/-- A part leads to the entry of its name. -/
theorem sightIn_cons (entries : Directory) (part : String) (parts : List String) :
    sightIn entries (part :: parts) =
      match entries.lookup part with
      | none => none
      | some (.file content) => if parts = [] then some (.file content) else none
      | some (.dir inner) => sightIn inner parts := by
  rw [sightIn, Entry.find?]
  cases entries.lookup part with
  | none => rfl
  | some entry =>
    cases entry with
    | file content => cases parts <;> rfl
    | dir inner => rfl

/-- Nothing stands in an empty directory. -/
theorem sightIn_empty {parts : List String} (h : parts ≠ []) : sightIn [] parts = none := by
  cases parts with
  | nil => exact absurd rfl h
  | cons part parts => rw [sightIn_cons]; rfl

/-- Where something stands, all that leads to it is a directory. -/
theorem sightIn_append_dir {entries : Directory} {parts rest : List String} (hrest : rest ≠ [])
    (h : sightIn entries (parts ++ rest) ≠ none) : sightIn entries parts = some .dir := by
  induction parts generalizing entries with
  | nil => rfl
  | cons part parts ih =>
    rw [List.cons_append, sightIn_cons] at h
    rw [sightIn_cons]
    cases hlook : entries.lookup part with
    | none => simp [hlook] at h
    | some entry =>
      cases entry with
      | file content => simp [hlook, hrest] at h
      | dir inner =>
        simp only [hlook] at h
        exact ih h

/-- Nothing stands below what is no directory. -/
theorem sightIn_below_eq_none {entries : Directory} {part next : String} {rest : List String}
    (h : sightIn entries [part] ≠ some .dir) : sightIn entries (part :: next :: rest) = none := by
  by_contra hbelow
  exact h (sightIn_append_dir (List.cons_ne_nil next rest) hbelow)

/-! ## Single entries -/

/-- A name is found at the first entry that has it. -/
theorem lookup_cons_eq_ite (part key : String) (entry : Entry) (entries : Directory) :
    List.lookup part ((key, entry) :: entries) =
      if part = key then some entry else entries.lookup part := by
  by_cases h : part = key
  · simp [h]
  · have hbeq : (part == key) = false := by simpa using h
    rw [List.lookup_cons, hbeq, if_neg h]

/-- An entry that is set is found, and the others are as before. -/
theorem lookup_setEntry (name part : String) (entry : Entry) (entries : Directory) :
    (setEntry name entry entries).lookup part =
      if part = name then some entry else entries.lookup part := by
  induction entries with
  | nil => rw [setEntry, lookup_cons_eq_ite]
  | cons other entries ih =>
    obtain ⟨key, value⟩ := other
    rw [setEntry]
    by_cases hkey : key = name
    · rw [if_pos hkey, lookup_cons_eq_ite, lookup_cons_eq_ite, hkey]
      split_ifs <;> rfl
    · rw [if_neg hkey, lookup_cons_eq_ite, lookup_cons_eq_ite, ih]
      by_cases hpart : part = key
      · rw [if_pos hpart, if_neg (hpart ▸ hkey), if_pos hpart]
      · rw [if_neg hpart, if_neg hpart]

/-- Of two entries set under one name the second stays. -/
theorem setEntry_setEntry (name : String) (first second : Entry) (entries : Directory) :
    setEntry name second (setEntry name first entries) = setEntry name second entries := by
  induction entries with
  | nil => simp [setEntry]
  | cons other entries ih =>
    rw [setEntry, setEntry]
    split_ifs with hname
    · rw [setEntry, if_pos rfl]
    · rw [setEntry, if_neg hname, ih]

/-- Setting the entry that a name has changes nothing. -/
theorem setEntry_of_lookup {name : String} {entry : Entry} {entries : Directory}
    (h : entries.lookup name = some entry) : setEntry name entry entries = entries := by
  induction entries with
  | nil => cases h
  | cons other entries ih =>
    obtain ⟨key, value⟩ := other
    rw [lookup_cons_eq_ite] at h
    by_cases hname : name = key
    · rw [if_pos hname] at h
      cases h
      rw [setEntry, if_pos hname.symm, hname]
    · rw [if_neg hname] at h
      rw [setEntry, if_neg (Ne.symm hname), ih h]

/-- A new entry can be removed again. -/
theorem eraseEntry_setEntry {name : String} {entries : Directory} (entry : Entry)
    (h : entries.lookup name = none) : eraseEntry name (setEntry name entry entries) = entries := by
  induction entries with
  | nil => simp [setEntry, eraseEntry]
  | cons other entries ih =>
    obtain ⟨key, value⟩ := other
    rw [lookup_cons_eq_ite] at h
    split_ifs at h with hname
    have hkey : key ≠ name := Ne.symm hname
    rw [setEntry, if_neg hkey, eraseEntry, List.filter_cons_of_pos (by simpa using hkey), ← eraseEntry,
      ih h]

/-- A directory that is set is seen below its name, and the rest is as before. -/
theorem sightIn_setDir (part : String) (inner entries : Directory) (q : String)
    (parts : List String) :
    sightIn (setEntry part (.dir inner) entries) (q :: parts) =
      if q = part then sightIn inner parts else sightIn entries (q :: parts) := by
  rw [sightIn_cons, lookup_setEntry]
  by_cases h : q = part
  · rw [if_pos h, if_pos h]
  · rw [if_neg h, if_neg h, sightIn_cons]

/-- What stands under a name is its entry. -/
theorem sightIn_singleton (entries : Directory) (name : String) :
    sightIn entries [name] = (entries.lookup name).map Entry.sight := by
  rw [sightIn_cons]
  rcases entries.lookup name with _ | _ | _ <;> rfl

/-- If only the entry of one name is changed, and is no directory before and after, the view is changed
there and nowhere else. -/
theorem sightIn_of_lookup {entries changed : Directory} {name : String} {entry : Option Entry}
    (hlook : ∀ part, changed.lookup part = if part = name then entry else entries.lookup part)
    (hbefore : sightIn entries [name] ≠ some .dir) (hafter : entry.map Entry.sight ≠ some .dir) :
    sightIn changed = Function.update (sightIn entries) [name] (entry.map Entry.sight) := by
  have hname : sightIn changed [name] = entry.map Entry.sight := by
    rw [sightIn_singleton, hlook, if_pos rfl]
  funext parts
  rcases parts with _ | ⟨part, parts⟩
  · rw [Function.update_of_ne (by simp), sightIn_nil, sightIn_nil]
  · by_cases hpart : part = name
    · subst hpart
      cases parts with
      | nil => rw [Function.update_self, hname]
      | cons next rest =>
        -- Below the name nothing stands, neither before nor after.
        rw [Function.update_of_ne (by simp), sightIn_below_eq_none hbefore,
          sightIn_below_eq_none (hname ▸ hafter)]
    · rw [Function.update_of_ne (by simp [hpart]), sightIn_cons, hlook, if_neg hpart, sightIn_cons]

/-- A change of the view of a directory in one place is a change of the whole view in that place. -/
theorem sightIn_alterAt {change : Directory → Directory} {name : String} {value : Option Sight}
    (hchange : ∀ inner, sightIn inner [name] ≠ some .dir →
      sightIn (change inner) = Function.update (sightIn inner) [name] value)
    {place : List String} {entries : Directory} (hplace : sightIn entries place = some .dir)
    (hname : sightIn entries (place ++ [name]) ≠ some .dir) :
    sightIn (alterAt change place entries) =
      Function.update (sightIn entries) (place ++ [name]) value := by
  induction place generalizing entries with
  | nil => exact hchange entries hname
  | cons part place ih =>
    rw [sightIn_cons] at hplace
    rw [List.cons_append, sightIn_cons] at hname
    cases hlook : entries.lookup part with
    | none => simp [hlook] at hplace
    | some entry =>
      cases entry with
      -- A file has nothing below it, so no place is reached through it.
      | file content =>
        simp only [hlook] at hplace
        split_ifs at hplace
        simp at hplace
      | dir inner =>
        simp only [hlook] at hplace hname
        rw [alterAt, hlook]
        -- The directory of the first part is set anew; by induction it differs in one place.
        funext parts
        rcases parts with _ | ⟨first, parts⟩
        · rw [Function.update_of_ne (by simp), sightIn_nil, sightIn_nil]
        · rw [sightIn_setDir]
          by_cases hfirst : first = part
          · subst hfirst
            rw [if_pos rfl, ih hplace hname]
            by_cases hparts : parts = place ++ [name]
            · simp [hparts]
            · rw [Function.update_of_ne hparts, Function.update_of_ne (by simpa using hparts),
                sightIn_cons, hlook]
          · rw [if_neg hfirst, Function.update_of_ne (by simp [hfirst])]

/-- Setting a file where no directory stands changes the view there and nowhere else. -/
theorem sightIn_setFile {place : List String} {entries : Directory} {name : String} (bytes : Bytes)
    (hplace : sightIn entries place = some .dir)
    (hname : sightIn entries (place ++ [name]) ≠ some .dir) :
    sightIn (alterAt (setEntry name (.file bytes)) place entries) =
      Function.update (sightIn entries) (place ++ [name]) (some (.file bytes)) := by
  refine sightIn_alterAt (fun inner hinner => ?_) hplace hname
  exact sightIn_of_lookup (fun part => lookup_setEntry name part _ inner) hinner (by simp [Entry.sight])

/-- Two changes of one directory are made one after the other. -/
theorem alterAt_alterAt (first second : Directory → Directory) (place : List String)
    (entries : Directory) :
    alterAt second place (alterAt first place entries) =
      alterAt (fun inner => second (first inner)) place entries := by
  induction place generalizing entries with
  | nil => rfl
  | cons part place ih =>
    rw [alterAt.eq_def first, alterAt.eq_def (fun inner => second (first inner))]
    rcases hlook : entries.lookup part with _ | _ | inner
    · simp only [hlook, alterAt]
    · simp only [hlook, alterAt]
    · have hset := lookup_setEntry part part (.dir (alterAt first place inner)) entries
      rw [if_pos rfl] at hset
      simp only [hlook, alterAt, hset, setEntry_setEntry, ih]

/-- A change that leaves the directory at its place as it is changes nothing. -/
theorem alterAt_of_fixed {change : Directory → Directory} {place : List String}
    {entries inner : Directory} (hfind : (Entry.dir entries).find? place = some (.dir inner))
    (hfixed : change inner = inner) : alterAt change place entries = entries := by
  induction place generalizing entries with
  | nil =>
    cases hfind
    exact hfixed
  | cons part place ih =>
    rw [Entry.find?] at hfind
    rcases hlook : entries.lookup part with _ | _ | next
    · simp [hlook] at hfind
    · cases place <;> simp [hlook, Entry.find?] at hfind
    · simp only [hlook] at hfind
      simp only [alterAt, hlook]
      rw [ih hfind, setEntry_of_lookup hlook]

/-! ## Making directories -/

/-- What making directories does at its first part: it fails and changes nothing, for a reason that is to be
seen under the name of the part, or it goes on inside the directory of that name, which is new if there was
no entry. -/
theorem makeAll_cons (part : String) (parts : List String) (entries : Directory) :
    (∃ fault, ∀ other : Directory, sightIn other [part] = sightIn entries [part] →
        makeAll (part :: parts) other = (.error fault, other)) ∨
      ∃ inner, (entries.lookup part = some (.dir inner) ∨
          entries.lookup part = none ∧ inner = []) ∧
        makeAll (part :: parts) entries =
          ((makeAll parts inner).1, setEntry part (.dir (makeAll parts inner).2) entries) := by
  simp only [sightIn_singleton]
  cases hlook : entries.lookup part with
  | none =>
    cases hcheck : checkName part with
    | error fault =>
      refine .inl ⟨fault, fun other hother => ?_⟩
      simp only [makeAll, Option.map_eq_none_iff.1 hother, hcheck]
    | ok _ => exact .inr ⟨[], .inr ⟨rfl, rfl⟩, by simp only [makeAll, hlook, hcheck]⟩
  | some entry =>
    cases entry with
    | file content =>
      -- A file is seen as it is, so any directory that looks alike here has the same file.
      have hfile : ∀ other : Directory,
          (other.lookup part).map Entry.sight = some (Entry.file content).sight →
            other.lookup part = some (.file content) := by
        intro other hother
        obtain ⟨_ | _, hentry, hsight⟩ := Option.map_eq_some_iff.1 hother
        · cases hsight
          exact hentry
        · cases hsight
      cases parts with
      | nil => exact .inl ⟨.taken, fun other hother => by simp only [makeAll, hfile other hother]⟩
      | cons next rest =>
        exact .inl ⟨if '\x00' ∈ next.toList then .nullCharacter else .notDirectory,
          fun other hother => by simp only [makeAll, hfile other hother]⟩
    | dir inner => exact .inr ⟨inner, .inl rfl, by simp only [makeAll, hlook]⟩

/-- Making directories keeps all that stands, and makes nothing but directories on the way. -/
theorem sightIn_makeAll (parts : List String) (entries : Directory) (place : List String) :
    sightIn (makeAll parts entries).2 place = sightIn entries place ∨
      sightIn entries place = none ∧ sightIn (makeAll parts entries).2 place = some .dir ∧
        place <+: parts := by
  induction parts generalizing entries place with
  | nil => exact .inl rfl
  | cons part parts ih =>
    rcases place with _ | ⟨first, place⟩
    · exact .inl rfl
    -- The first part fails, or all that follows takes place inside its directory.
    obtain ⟨fault, hmake⟩ | ⟨inner, hinner, hmake⟩ := makeAll_cons part parts entries
    · rw [hmake entries rfl]
      exact .inl rfl
    rw [hmake, sightIn_setDir]
    by_cases hfirst : first = part
    · subst hfirst
      rw [if_pos rfl, sightIn_cons, List.cons_prefix_cons]
      obtain hlook | ⟨hlook, rfl⟩ := hinner
      · simp only [hlook, true_and]
        exact ih inner place
      · -- The directory is new and was empty, so all that is seen in it was made.
        simp only [hlook, true_and]
        by_cases hplace : place = []
        · subst hplace
          exact .inr ⟨rfl, List.nil_prefix⟩
        · rw [← sightIn_empty hplace]
          refine (ih [] place).imp_right fun h => h.2
    · rw [if_neg hfirst]
      exact .inl rfl

/-- If making directories succeeds, there is a directory at the end. -/
theorem sightIn_makeAll_self {parts : List String} {entries : Directory}
    (h : (makeAll parts entries).1 = .ok ()) : sightIn (makeAll parts entries).2 parts = some .dir := by
  induction parts generalizing entries with
  | nil => rfl
  | cons part parts ih =>
    obtain ⟨fault, hmake⟩ | ⟨inner, -, hmake⟩ := makeAll_cons part parts entries
    · rw [hmake entries rfl] at h
      cases h
    · rw [hmake] at h ⊢
      rw [sightIn_setDir, if_pos rfl]
      exact ih h

/-- Making directories again has the same outcome and makes nothing new, as long as all on the way is as it was
left. -/
theorem makeAll_again {parts : List String} {entries again : Directory}
    (h : ∀ place, place <+: parts → sightIn again place = sightIn (makeAll parts entries).2 place) :
    (makeAll parts again).1 = (makeAll parts entries).1 ∧
      sightIn (makeAll parts again).2 = sightIn again := by
  induction parts generalizing entries again with
  | nil => exact ⟨rfl, rfl⟩
  | cons part parts ih =>
    -- The first part looks as it was left, whether that was a fault or a directory.
    have hfirst := h [part] (by simp)
    obtain ⟨fault, hmake⟩ | ⟨inner, -, hmake⟩ := makeAll_cons part parts entries
    · rw [hmake entries rfl] at hfirst ⊢
      rw [hmake again hfirst]
      exact ⟨rfl, rfl⟩
    · -- There is a directory of that name now, and all on the way inside it is as it was left.
      rw [hmake] at h hfirst ⊢
      rw [sightIn_setDir, if_pos rfl, sightIn_nil, sightIn_singleton] at hfirst
      obtain ⟨_ | next, hlook, hdir⟩ := Option.map_eq_some_iff.1 hfirst
      · cases hdir
      have hnext : ∀ place, place <+: parts →
          sightIn next place = sightIn (makeAll parts inner).2 place := by
        intro place hplace
        have hbelow := h (part :: place) (List.cons_prefix_cons.2 ⟨rfl, hplace⟩)
        rwa [sightIn_setDir, if_pos rfl, sightIn_cons, hlook] at hbelow
      obtain ⟨houtcome, hsight⟩ := ih hnext
      simp only [makeAll, hlook]
      refine ⟨houtcome, ?_⟩
      funext place
      rcases place with _ | ⟨first, place⟩
      · rfl
      · rw [sightIn_setDir, hsight]
        split_ifs with hname
        · rw [hname, sightIn_cons, hlook]
        · rfl

/-- Following parts never meets a null character. -/
theorem Store.follow_ne_nullCharacter (store : Store) (place parts : List String) :
    store.follow place parts ≠ .error .nullCharacter := by
  induction parts generalizing place with
  | nil => simp [Store.follow]
  | cons part parts ih =>
    rw [Store.follow]
    cases store.directory? place with
    | none => simp
    | some entries =>
      simp only []
      split_ifs
      · exact ih place
      · exact ih place.dropLast
      · simp
      · exact ih (place ++ [part])
      · simp

end ApiOutline.Files
