import ChromeEc.Power.Chipset
import ChromeEc.Power.Baytrail
import ChromeEc.Power.Restart
import ChromeEc.Power.Sequencing
import ChromeEc.Power.Faults
import ChromeEc.Power.Hooks
import ChromeEc.Uart.Ring
import ChromeEc.Uart.Buffering
import ChromeEc.Uart.Transmit
import ChromeEc.Uart.Receive
import ChromeEc.Lightbar.Task
import ChromeEc.Lightbar.Replay
import ChromeEc.Lightbar.Colors
import ChromeEc.Uart.Overflow
import ChromeEc.Uart.Snapshot
import ChromeEc.Lightbar.Battery
import ChromeEc.TempSensor.G781
import ChromeEc.Stm32.System
import ChromeEc.Util.Iteflash
import ChromeEc.Stm32.Backup
import ChromeEc.MotionSense.Memmap
import ChromeEc.Util.IteflashErase
import ChromeEc.Stm32.Usb
import ChromeEc.Stm32.Registers
import ChromeEc.Stm32.Gpio
import ChromeEc.MotionSense.Commands
import ChromeEc.Stm32.Adc
import ChromeEc.Stm32.Hwtimer
import ChromeEc.It83xx.Gpio
import ChromeEc.It83xx.Irq
import ChromeEc.Battery.Bq27541
