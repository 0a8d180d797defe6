import LunaVmm.RegisterState
import LunaVmm.Emulate.Decode
import LunaVmm.Emulate.Reference
import LunaVmm.Q35.Lpc
import LunaVmm.Q35.LpcInvariant
import LunaVmm.Vcpu.Mtrr
import LunaVmm.Vcpu.Exit
import LunaVmm.Vcpu.Msr
import LunaVmm.Vcpu.Pio
import LunaVmm.Vcpu.Cpuid
import LunaVmm.Vcpu.Mmio
import LunaVmm.Vcpu.Run
import LunaVmm.Vcpu.Apic
import LunaVmm.Usb.Config
import LunaVmm.Usb.Grammar
import LunaVmm.Usb.Parse
import LunaVmm.Usb.Device
import LunaVmm.Usb.MassStorage
import LunaVmm.Usb.BootMouse
import LunaVmm.Cpu.Start
