import SizedFace.Backend

namespace SizedFace

/-- The parts of an instance that a backend hands out and that have to be given back. -/
inductive Part where
  | face | shaper | platform
  deriving DecidableEq

/-- A part that a backend made for the instance opened under a number. -/
structure Handle where
  part : Part
  maker : Maker
  opening : Nat
  deriving DecidableEq

inductive Entry where
  | said (notice : Notice)
  | acquired (handle : Handle)
  | released (handle : Handle)
  /-- Only platform resources are discarded apart from their release. -/
  | discarded (handle : Handle)

/-- Entries, the earliest first. -/
abbrev Journal := List Entry

namespace Journal

def told (notices : List Notice) : Journal := notices.map Entry.said

def notices (journal : Journal) : List Notice :=
  journal.filterMap fun
    | .said notice => some notice
    | _ => none

def acquisitions (journal : Journal) : List Handle :=
  journal.filterMap fun
    | .acquired handle => some handle
    | _ => none

def releases (journal : Journal) : List Handle :=
  journal.filterMap fun
    | .released handle => some handle
    | _ => none

def discards (journal : Journal) : List Handle :=
  journal.filterMap fun
    | .discarded handle => some handle
    | _ => none

@[simp] theorem notices_append (a b : Journal) :
    (a ++ b : Journal).notices = a.notices ++ b.notices :=
  List.filterMap_append ..

@[simp] theorem acquisitions_append (a b : Journal) :
    (a ++ b : Journal).acquisitions = a.acquisitions ++ b.acquisitions :=
  List.filterMap_append ..

@[simp] theorem releases_append (a b : Journal) :
    (a ++ b : Journal).releases = a.releases ++ b.releases :=
  List.filterMap_append ..

@[simp] theorem discards_append (a b : Journal) :
    (a ++ b : Journal).discards = a.discards ++ b.discards :=
  List.filterMap_append ..

@[simp] theorem acquisitions_told (notices : List Notice) : (told notices).acquisitions = [] := by
  induction notices with
  | nil => rfl
  | cons notice rest ih => simp_all [told, acquisitions]

@[simp] theorem releases_told (notices : List Notice) : (told notices).releases = [] := by
  induction notices with
  | nil => rfl
  | cons notice rest ih => simp_all [told, releases]

@[simp] theorem discards_told (notices : List Notice) : (told notices).discards = [] := by
  induction notices with
  | nil => rfl
  | cons notice rest ih => simp_all [told, discards]

@[simp] theorem notices_told (notices : List Notice) : (told notices).notices = notices := by
  induction notices with
  | nil => rfl
  | cons notice rest ih => simp_all [told, Journal.notices]

end Journal
end SizedFace
