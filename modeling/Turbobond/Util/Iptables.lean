import Turbobond.Lib.Netfilter
import Turbobond.Util.Cmd

/-!
# `iptables` commands

`run`, of a command of `iptables`: with its usual meaning where it is executed.
-/

namespace Turbobond.Util

open Netfilter

/-- Commands of `iptables` are executed. -/
def executesIptables (host : Host) : Bool := !host.dryRun && host.which "iptables"

/-- `run`, of a command of `iptables`. -/
def runIptables (host : Host) (c : Iptables.Command) (fw : Iptables) : CommandResult × Iptables :=
  let result := run host "iptables" { returncode := if (fw.exec c).1 then 0 else 1 }
  (result, if executesIptables host then (fw.exec c).2 else fw)

/-- Commands one after the other, whatever they return. -/
def runAllIptables (host : Host) (cs : List Iptables.Command) (fw : Iptables) : Iptables :=
  cs.foldl (fun fw c => (runIptables host c fw).2) fw

variable {host : Host} {fw : Iptables} {c : Iptables.Command}

lemma ok_runIptables (h : executesIptables host = true) :
    (runIptables host c fw).1.ok = (fw.exec c).1 := by
  simp only [executesIptables, Bool.and_eq_true, Bool.not_eq_true'] at h
  cases hok : (fw.exec c).1 <;> simp [runIptables, run, CommandResult.ok, h, hok]

lemma runIptables_of_executes (h : executesIptables host = true) :
    (runIptables host c fw).2 = (fw.exec c).2 := by
  rw [runIptables, h]
  rfl

lemma runIptables_of_not_executes (h : executesIptables host = false) :
    (runIptables host c fw).2 = fw := by
  rw [runIptables, h]
  rfl

lemma runAllIptables_of_executes (h : executesIptables host = true) (cs : List Iptables.Command) :
    runAllIptables host cs fw = fw.execAll cs := by
  induction cs generalizing fw with
  | nil => rfl
  | cons c cs ih =>
    rw [Firewall.execAll_cons, ← runIptables_of_executes h]
    exact ih

end Turbobond.Util
