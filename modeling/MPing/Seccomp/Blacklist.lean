import MPing.Seccomp.FilterContext

/-!
# The blacklist

The `kill_…` groups of `SeccompFilterContext` (`seccomp.cpp`). Every entry of a group has the same
form: if the headers of the target define `SYS_x`, the group calls `kill(SCMP_SYS(x))`. So a group
is the list of the names it tests, in the order of the source. `set_mempolicyvmsplice` is one name
there, and no kernel's.
-/

namespace MPing.Seccomp

open Infra Infra.Stateful SeccompFilterContext

/-! ## Syscalls -/

/-- The syscalls `seccomp.cpp` tests for, under the kernel's names. -/
inductive Syscall where
  | chown | chown32 | fchown | fchown32 | fchownat | lchown | lchown32 | adjtimex | clock_adjtime
  | clock_settime | settimeofday | stime | modify_ldt | subpage_prot | switch_endian | vm86
  | vm86old | lookup_dcookie | perf_event_open | pidfd_getfd | process_vm_writev | rtas
  | s390_runtime_instr | sys_debug_setcontext | open_by_handle_at | name_to_handle_at | ioprio_set
  | ni_syscall | syslog | fanotify_init | add_key | request_key | mbind | migrate_pages
  | move_pages | keyctl | io_setup | io_destroy | io_getevents | io_submit | io_cancel
  | remap_file_pages | set_mempolicyvmsplice | userfaultfd | acct | bpf | nfsservctl
  | setdomainname | sethostname | vhangup | ptrace | personality | process_vm_readv | ipc
  | memfd_create | mq_getsetattr | mq_notify | mq_open | mq_timedreceive | mq_timedsend
  | mq_unlink | msgctl | msgget | msgrcv | msgsnd | process_madvise | semctl | semget | semop
  | semtimedop | shmat | shmctl | shmdt | pipe | pipe2 | mlock | mlock2 | mlockall | munlock
  | munlockall | delete_module | finit_module | init_module | chroot | fsconfig | fsmount | fsopen
  | fspick | mount | move_mount | open_tree | pivot_root | umount | umount2 | _sysctl
  | afs_syscall | bdflush | «break» | create_module | ftime | get_kernel_syms | getpmsg | gtty
  | idle | lock | mpx | prof | profil | putpmsg | query_module | security | sgetmask | ssetmask
  | stty | sysfs | tuxcall | ulimit | uselib | ustat | vserver | quotactl | setfsuid | setfsuid32
  | setgroups | setgroups32 | setresuid | setresuid32 | setreuid | setreuid32 | setuid | setuid32
  | ioperm | iopl | pciconfig_iobase | pciconfig_read | pciconfig_write | s390_pci_mmio_read
  | s390_pci_mmio_write | kexec_load | kexec_file_load | reboot | nice | sched_setaffinity
  | sched_setattr | sched_setparam | sched_setscheduler | set_mempolicy | setgid | setgid32
  | setregid | setregid32 | setresgid | setresgid32 | rt_sigaction | rt_sigpending
  | rt_sigprocmask | rt_sigsuspend | rt_sigtimedwait | sigaction | sigaltstack | signal | signalfd
  | signalfd4 | sigpending | sigprocmask | sigsuspend | swapon | swapoff | fdatasync | fsync
  | msync | sync | sync_file_range | sync_file_range2 | syncfs | copy_file_range | fadvise64
  | fadvise64_64 | flock | get_mempolicy | getcpu | getpriority | ioprio_get | kcmp | madvise
  | mremap | oldolduname | olduname | readahead | readdir | sched_get_priority_max
  | sched_get_priority_min | sched_getaffinity | sched_getattr | sched_getparam
  | sched_getscheduler | sched_rr_get_interval | sched_yield | sendfile | sendfile64 | setfsgid
  | setfsgid32 | setpgid | setsid | splice | sysinfo | tee | umask | uname | vmsplice
deriving DecidableEq, Repr

/-- The target the program is compiled for. -/
structure Target where
  /-- Whether the headers define `SYS_x`. -/
  defines : Syscall → Bool
  /-- `SCMP_SYS(x)`. -/
  scmpSys : Syscall → Int
  /-- Different syscalls have different numbers. -/
  scmpSys_injective : Function.Injective scmpSys

theorem Syscall.ctorIdx_injective : Function.Injective fun x : Syscall => (x.ctorIdx : Int) := by
  intro x y h
  rw [← Syscall.ofNat_ctorIdx x, Int.ofNat.inj h, Syscall.ofNat_ctorIdx]

/-- A target that knows every name, with numbers of its own. -/
def Target.sample : Target where
  defines := fun _ => true
  scmpSys := fun x => x.ctorIdx
  scmpSys_injective := Syscall.ctorIdx_injective

/-! ## Groups -/

/-- A member function `kill_…`: the names it tests. -/
structure KillGroup where
  syscalls : List Syscall
deriving DecidableEq, Repr

/-- The call of a group. -/
def KillGroup.perform (g : KillGroup) (lib : Libseccomp) (target : Target) :
    SeccompFilterContext.Action Unit :=
  g.syscalls.forM fun x =>
    if target.defines x then kill lib (target.scmpSys x) else pure ()

def killChown : KillGroup where
  syscalls := [.chown, .chown32, .fchown, .fchown32, .fchownat, .lchown, .lchown32]

def killClock : KillGroup where
  syscalls := [.adjtimex, .clock_adjtime, .clock_settime, .settimeofday, .stime]

def killCpuEmulation : KillGroup where
  syscalls := [.modify_ldt, .subpage_prot, .switch_endian, .vm86, .vm86old]

def killDebug : KillGroup where
  syscalls := [
    .lookup_dcookie, .perf_event_open, .pidfd_getfd, .process_vm_writev, .rtas,
    .s390_runtime_instr, .sys_debug_setcontext]

def killOthers : KillGroup where
  syscalls := [
    .open_by_handle_at, .name_to_handle_at, .ioprio_set, .ni_syscall, .syslog, .fanotify_init,
    .add_key, .request_key, .mbind, .migrate_pages, .move_pages, .keyctl, .io_setup, .io_destroy,
    .io_getevents, .io_submit, .io_cancel, .remap_file_pages, .set_mempolicyvmsplice,
    .userfaultfd, .acct, .bpf, .nfsservctl, .setdomainname, .sethostname, .vhangup, .ptrace,
    .personality, .process_vm_readv]

def killIpc : KillGroup where
  syscalls := [
    .ipc, .memfd_create, .mq_getsetattr, .mq_notify, .mq_open, .mq_timedreceive, .mq_timedsend,
    .mq_unlink, .msgctl, .msgget, .msgrcv, .msgsnd, .process_madvise, .process_vm_readv,
    .process_vm_writev, .semctl, .semget, .semop, .semtimedop, .shmat, .shmctl, .shmdt, .pipe,
    .pipe2]

def killKeyring : KillGroup where
  syscalls := [.add_key, .keyctl, .request_key]

def killMemlock : KillGroup where
  syscalls := [.mlock, .mlock2, .mlockall, .munlock, .munlockall]

def killModule : KillGroup where
  syscalls := [.delete_module, .finit_module, .init_module]

def killMount : KillGroup where
  syscalls := [
    .chroot, .fsconfig, .fsmount, .fsopen, .fspick, .mount, .move_mount, .open_tree, .pivot_root,
    .umount, .umount2]

def killObsolete : KillGroup where
  syscalls := [
    ._sysctl, .afs_syscall, .bdflush, .«break», .create_module, .ftime, .get_kernel_syms,
    .getpmsg, .gtty, .idle, .lock, .mpx, .prof, .profil, .putpmsg, .query_module, .security,
    .sgetmask, .ssetmask, .stty, .sysfs, .tuxcall, .ulimit, .uselib, .ustat, .vserver]

def killPrivileged : KillGroup where
  syscalls := [
    ._sysctl, .acct, .bpf, .chroot, .fanotify_init, .mount, .nfsservctl, .open_by_handle_at,
    .pivot_root, .quotactl, .setdomainname, .setfsuid, .setfsuid32, .setgroups, .setgroups32,
    .sethostname, .setresuid, .setresuid32, .setreuid, .setreuid32, .setuid, .setuid32, .umount2,
    .vhangup]

def killRawio : KillGroup where
  syscalls := [
    .ioperm, .iopl, .pciconfig_iobase, .pciconfig_read, .pciconfig_write, .s390_pci_mmio_read,
    .s390_pci_mmio_write]

def killReboot : KillGroup where
  syscalls := [.kexec_load, .kexec_file_load, .reboot]

def killResources : KillGroup where
  syscalls := [
    .ioprio_set, .mbind, .migrate_pages, .move_pages, .nice, .sched_setaffinity, .sched_setattr,
    .sched_setparam, .sched_setscheduler, .set_mempolicy]

def killSetuid : KillGroup where
  syscalls := [
    .setgid, .setgid32, .setgroups, .setgroups32, .setregid, .setregid32, .setresgid,
    .setresgid32, .setresuid, .setresuid32, .setreuid, .setreuid32, .setuid, .setuid32]

def killSignal : KillGroup where
  syscalls := [
    .rt_sigaction, .rt_sigpending, .rt_sigprocmask, .rt_sigsuspend, .rt_sigtimedwait, .sigaction,
    .sigaltstack, .signal, .signalfd, .signalfd4, .sigpending, .sigprocmask, .sigsuspend]

def killSwap : KillGroup where
  syscalls := [.swapon, .swapoff]

def killSync : KillGroup where
  syscalls := [.fdatasync, .fsync, .msync, .sync, .sync_file_range, .sync_file_range2, .syncfs]

def killSystemService : KillGroup where
  syscalls := [
    .copy_file_range, .fadvise64, .fadvise64_64, .flock, .get_mempolicy, .getcpu, .getpriority,
    .ioprio_get, .kcmp, .madvise, .mremap, .name_to_handle_at, .oldolduname, .olduname,
    .personality, .readahead, .readdir, .remap_file_pages, .sched_get_priority_max,
    .sched_get_priority_min, .sched_getaffinity, .sched_getattr, .sched_getparam,
    .sched_getscheduler, .sched_rr_get_interval, .sched_yield, .sendfile, .sendfile64, .setfsgid,
    .setfsgid32, .setfsuid, .setfsuid32, .setpgid, .setsid, .splice, .sysinfo, .tee, .umask,
    .uname, .userfaultfd, .vmsplice]

/-- The groups the class declares. -/
def killGroups : List KillGroup :=
  [killChown, killClock, killCpuEmulation, killDebug, killOthers, killIpc, killKeyring,
    killMemlock, killModule, killMount, killObsolete, killPrivileged, killRawio, killReboot,
    killResources, killSetuid, killSignal, killSwap, killSync, killSystemService]

end MPing.Seccomp
