import Mathlib.Data.List.Basic

/-!
A leader that writes an entry for every change and a follower that makes the
same changes from the entries. Between them lies the unread part of the log:
the follower is behind by exactly these entries.
-/
namespace RyzenBuild.Replica

variable {View Entry : Type} (follow : View → Entry → View)

/-- Following the unread entries leads from the follower's view to the leader's. -/
def Behind (mirror : View) (unread : List Entry) (leader : View) : Prop :=
  unread.foldl follow mirror = leader

variable (mirror leader : View) (unread : List Entry)

theorem behind_nothing (caught : Behind follow mirror [] leader) : mirror = leader := caught

/-- The leader moves on and writes what leads there. -/
theorem behind_write (written : List Entry) (next : View)
    (behind : Behind follow mirror unread leader) (told : Behind follow leader written next) :
    Behind follow mirror (unread ++ written) next := by
  rw [Behind, List.foldl_append, behind]
  exact told

/-- The follower takes the oldest entry. -/
theorem behind_read (entry : Entry) (behind : Behind follow mirror (entry :: unread) leader) :
    Behind follow (follow mirror entry) unread leader := behind

end RyzenBuild.Replica
